import SignatureBridge.Settings.Environment
import SignatureBridge.Number.Radix
import SignatureBridge.Text.Blank

/-!
# Environment files

An environment file is a sequence of statements `NAME=value`. A statement may start with `export`;
the name may stand between apostrophes; a value between apostrophes or double quotes may run over
several lines and hold escapes; an unquoted value ends at the end of the line or at a comment, which
is a number sign after a blank. The blanks behind the equals sign count in that, so a comment can
also stand in place of a value, which is then empty. A name without an equals sign is noted and sets
nothing. What cannot be read is skipped to the end of the line and reported by the line at which the
statement starts; the blank lines before a statement belong to it.

A value may refer to variables as `${NAME}` or `${NAME:-default}`. The environment comes first in
that, then the statements before. Loading a file sets the names that the environment does not have
yet (`EnvFile.load`).
-/

namespace SignatureBridge.EnvFile

/-- A statement of an environment file. -/
inductive Statement where
  | assign (name : Text) (value : Option Text)
  /-- Blank lines or a comment. -/
  | empty
  /-- Something that cannot be read, with the line at which it starts. -/
  | malformed (line : Nat)
  deriving DecidableEq

/-! ### Pieces of a statement -/

/-- A blank that does not end a line. -/
def isInlineBlank (c : CodePoint) : Bool := c.isBlank && c ≠ 10 && c ≠ 13

/-- The text after the blanks at its start that do not end a line. -/
def skipInline (s : Text) : Text := s.dropWhile isInlineBlank

/-- The text after the word `export` and its blanks, if it starts with them. -/
def skipExport (s : Text) : Text :=
  match s.dropLeading? "export" with
  | none => s
  | some rest =>
    let after := skipInline rest
    if after.length < rest.length then after else s

/-- The name at the start of a statement; a comment has none. -/
def name? : Text → Option (Option Text × Text)
  | [] => none
  | c :: rest =>
    if c = 35 then some (none, c :: rest)
    else if c = 39 then
      match rest.span (· ≠ 39) with
      | (name, _ :: after) => if name = [] then none else some (some name, after)
      | _ => none
    else
      match (c :: rest).span fun d ↦ d ≠ 61 && d ≠ 35 && !d.isBlank with
      | ([], _) => none
      | (name, after) => some (some name, after)

/-- The text up to the first quote that has no backslash before it, and the text after it. -/
def beforeQuote? (quote : CodePoint) (before : Text) : Text → Option (Text × Text)
  | [] => none
  | [c] => if c = quote then some (before.reverse, []) else none
  | c :: d :: rest =>
    if c = quote then some (before.reverse, d :: rest)
    else if c = 92 ∧ d = quote then beforeQuote? quote (d :: c :: before) rest
    else beforeQuote? quote (c :: before) (d :: rest)

/-- The text up to the last quote, and the text after it. -/
def beforeLastQuote? (quote : CodePoint) (s : Text) : Option (Text × Text) :=
  match s.reverse.span (· ≠ quote) with
  | (_, []) => none
  | (after, _ :: front) => some (front.reverse, after.reverse)

/-- The text between quotes and the text after it. When every quote has a backslash before it, the
last one ends the text. -/
def quoted? (quote : CodePoint) (s : Text) : Option (Text × Text) :=
  (beforeQuote? quote [] s).or (beforeLastQuote? quote s)

/-- A text in which the escapes of known letters are replaced. -/
def unescape (meaning? : CodePoint → Option CodePoint) : Text → Text
  | [] => []
  | [c] => [c]
  | c :: d :: rest =>
    if c = 92 then
      match meaning? d with
      | some x => x :: unescape meaning? rest
      | none => c :: unescape meaning? (d :: rest)
    else c :: unescape meaning? (d :: rest)

/-- The escapes between apostrophes. -/
def apostropheEscape? (c : CodePoint) : Option CodePoint := if c = 92 ∨ c = 39 then some c else none

/-- The escapes between double quotes. -/
def doubleQuoteEscape? (c : CodePoint) : Option CodePoint :=
  if c = 92 ∨ c = 39 ∨ c = 34 then some c
  else if c = 97 then some 7
  else if c = 98 then some 8
  else if c = 102 then some 12
  else if c = 110 then some 10
  else if c = 114 then some 13
  else if c = 116 then some 9
  else if c = 118 then some 11
  else none

/-- A line without its comment. -/
def dropComment : Text → Text
  | [] => []
  | c :: rest =>
    if c.isBlank ∧ ((c :: rest).dropWhile CodePoint.isBlank).head? = some 35 then []
    else c :: dropComment rest

/-- Whether a code point stays on its line. -/
def isInLine (c : CodePoint) : Bool := c ≠ 10 && c ≠ 13

/-- The value that a line starts with, and the text after the line. -/
def unquoted (s : Text) : Text × Text :=
  let (line, after) := s.span isInLine
  ((dropComment line).trimBlanks, after)

/-- The value after an equals sign. -/
def value? (s : Text) : Option (Text × Text) :=
  match skipInline s with
  | 39 :: rest => (quoted? 39 rest).map fun (raw, after) ↦ (unescape apostropheEscape? raw, after)
  | 34 :: rest => (quoted? 34 rest).map fun (raw, after) ↦ (unescape doubleQuoteEscape? raw, after)
  | _ => some (unquoted s)

/-- The text after a comment, if one comes next. -/
def skipComment (s : Text) : Text :=
  match skipInline s with
  | [] => s
  | c :: rest => if c = 35 then rest.dropWhile isInLine else s

/-- The text after the end of the line, if nothing but blanks comes before it. -/
def lineEnd? (s : Text) : Option Text :=
  match skipInline s with
  | [] => some []
  | c :: rest =>
    if c = 10 then some rest
    else if c = 13 then some ((Text.dropLeading? rest [10]).getD rest)
    else none

/-- The text after the rest of a line. -/
def skipLine (s : Text) : Text :=
  match s.dropWhile isInLine with
  | [] => []
  | _ :: rest => rest

/-! ### Statements -/

/-- The rest of a statement after its name, with what follows it; or where reading failed. -/
def afterName (name : Option Text) (s : Text) : Except Text (Statement × Text) :=
  let s := skipInline s
  let value : Except Text (Option Text × Text) :=
    match s with
    | [] => .ok (none, s)
    | c :: rest =>
      if c = 61 then
        match value? rest with
        | some (v, after) => .ok (some v, after)
        | none => .error rest
      else .ok (none, s)
  match value with
  | .error place => .error place
  | .ok (v, after) =>
    let after := skipComment after
    match lineEnd? after with
    | none => .error after
    | some rest =>
      match name with
      | none => .ok (.empty, rest)
      | some name => .ok (.assign name v, rest)

/-- The first statement of a text that starts at a line, and what follows it. -/
def statement (line : Nat) (s : Text) : Statement × Text :=
  let s := s.dropWhile CodePoint.isBlank
  if s = [] then (.empty, [])
  else
    let s := skipExport s
    let result : Except Text (Statement × Text) :=
      match name? s with
      | none => .error s
      | some (name, after) => afterName name after
    match result with
    | .ok found => found
    | .error place => (.malformed line, skipLine place)

/-- The statements of a text that starts at a line, on a budget of one step for each letter. -/
def statementsFrom : Nat → Nat → Text → List Statement
  | 0, _, _ => []
  | _ + 1, _, [] => []
  | budget + 1, line, c :: s =>
    let (found, rest) := statement line (c :: s)
    let read : Text := (c :: s).take ((c :: s).length - rest.length)
    found :: statementsFrom budget (line + read.count 10) rest

/-- The statements of a file. -/
def statements (s : Text) : List Statement := statementsFrom s.length 1 s

/-! ### Variables -/

/-- The name and the default of a reference, after its opening, and what follows it. -/
def reference? (s : Text) : Option ((Text × Option Text) × Text) :=
  match s.span fun c ↦ c ≠ 125 && c ≠ 58 with
  | (name, 125 :: rest) => some ((name, none), rest)
  | (name, 58 :: 45 :: rest) =>
    match rest.span (· ≠ 125) with
    | (default, _ :: after) => some ((name, some default), after)
    | _ => none
  | _ => none

/-- A text with its references replaced, on a budget of one step for each letter. -/
def expandFrom (value? : Text → Option Text) : Nat → Text → Text
  | 0, s => s
  | _ + 1, [] => []
  | budget + 1, c :: s =>
    let found? : Option ((Text × Option Text) × Text) :=
      match s with
      | [] => none
      | d :: rest => if c = 36 ∧ d = 123 then reference? rest else none
    match found? with
    | some ((name, default), rest) =>
      ((value? name).or default).getD [] ++ expandFrom value? budget rest
    | none => c :: expandFrom value? budget s

/-- The names that a text refers to. -/
def references : Text → List Text
  | [] => []
  | [_] => []
  | c :: d :: rest =>
    let here : List Text :=
      match if c = 36 ∧ d = 123 then reference? rest else none with
      | some ((name, _), _) => [name]
      | none => []
    here ++ references (d :: rest)

/-- The names that the statements of a text assign or refer to. -/
def mentionedNames (text : Text) : List Text :=
  (statements text).flatMap fun
    | .assign name value => name :: references (value.getD [])
    | _ => []

/-- A text with its references replaced. -/
def expand (value? : Text → Option Text) (s : Text) : Text := expandFrom value? s.length s

/-- The names that statements assign, each once, with the last value; a name without a value takes
an earlier one away. -/
abbrev Bindings := List (Text × Option Text)

/-- Sets a name: in its place if it is there, else at the end. -/
def bind (name : Text) (value : Option Text) : Bindings → Bindings
  | [] => [(name, value)]
  | b :: rest => if b.1 = name then (name, value) :: rest else b :: bind name value rest

/-- What a name stands for in a value. A name that is bound to nothing stands for the empty text. -/
def meaning? (env : Environment) (bindings : Bindings) (name : Text) : Option Text :=
  (env.get? name).or ((bindings.lookup name).map fun value ↦ value.getD [])

/-- The bindings of statements after others. -/
def bindAll (env : Environment) : Bindings → List Statement → Bindings
  | bindings, [] => bindings
  | bindings, .assign name value :: rest =>
    bindAll env (bind name (value.map (expand (meaning? env bindings))) bindings) rest
  | bindings, _ :: rest => bindAll env bindings rest

/-! ### Loading -/

/-- Sets the names that the environment does not have. What was set before a failure stays. -/
def setMissing : Bindings → Environment → Except EnvironmentError Unit × Environment
  | [], env => (.ok (), env)
  | (name, value) :: rest, env =>
    match env.get? name, value with
    | none, some v =>
      match env.set? name v with
      | .ok env => setMissing rest env
      | .error cause => (.error cause, env)
    | _, _ => setMissing rest env

/-- Loads the text of an environment file. -/
def load (text : Text) (env : Environment) : Except EnvironmentError Unit × Environment :=
  setMissing (bindAll env [] (statements text)) env

/-- The lines at which statements start that cannot be read. -/
def malformedLines (text : Text) : List Nat :=
  (statements text).filterMap fun
    | .malformed line => some line
    | _ => none

/-- The report on a statement that cannot be read. -/
def malformedMessage (line : Nat) : Text :=
  "python-dotenv could not parse statement starting at line " ++ Text.ofNat line

end SignatureBridge.EnvFile
