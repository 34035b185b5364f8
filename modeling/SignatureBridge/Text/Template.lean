import SignatureBridge.Text.NameLetter
import SignatureBridge.Text.Digit
import SignatureBridge.Text.Quoted
import SignatureBridge.Number.Reading

/-!
# Replacement templates

A template is the text that stands in for a match, written with escapes: a backslash and a letter
for a control character, up to three octal digits for a code point, and a reference to the match
itself. There are no groups inside a match, so the only reference with a meaning is that to group
zero. `Template.parse` reads a template and `Template.fill` puts a match into it.

A template is cut into units before it is read, and a unit is never split again: a backslash takes
the code point behind it along, wherever it stands. So `\>` closes no name, and a digit behind a
backslash continues no number. A backslash with nothing behind it is no unit. It is noticed as soon
as the last unit is taken, before anything is said about the escape that the unit belongs to.
-/

namespace SignatureBridge

/-- What is wrong with a template, or with the pattern that it goes with. -/
inductive TemplateFlaw where
  | nothingToRepeat
  | loneBackslash
  | badEscape (letter : CodePoint)
  | noGroup (digits : Text)
  | octalTooLarge (digits : Text)
  | noNameOpening
  | noName
  | openName
  | badName (name : Text)
  deriving DecidableEq

/-- The wording of a flaw. -/
def TemplateFlaw.message : TemplateFlaw → Text
  | nothingToRepeat => "nothing to repeat"
  | loneBackslash => "bad escape (end of pattern)"
  | badEscape letter => "bad escape \\" ++ [letter]
  | noGroup digits => "invalid group reference " ++ digits
  | octalTooLarge digits => "octal escape value \\" ++ digits ++ " outside of range 0-0o377"
  | noNameOpening => "missing <"
  | noName => "missing group name"
  | openName => "missing >, unterminated name"
  | badName name => "bad character in group name " ++ name.quoted

/-- Why a template cannot be used. -/
inductive TemplateError where
  /-- A flaw at a position of the template. -/
  | flaw (cause : TemplateFlaw) (template : Text) (position : Nat)
  /-- A reference by a name; no group has one. -/
  | unknownName (name : Text)
  deriving DecidableEq

/-- The wording of an error. A template of several lines is told by line and column as well. -/
def TemplateError.message : TemplateError → Text
  | flaw cause template position =>
    let before : Text := template.take position
    let lines : Text :=
      if template.contains 10 then
        " (line " ++ Text.ofNat (before.count 10 + 1) ++ ", column " ++
          Text.ofNat ((before.reverse.takeWhile (· ≠ 10)).length + 1) ++ ")"
      else []
    cause.message ++ " at position " ++ Text.ofNat position ++ lines
  | unknownName name => "unknown group name " ++ name.quoted

/-- The class under which a report files the error. -/
def TemplateError.category : TemplateError → Text
  | flaw _ _ _ => "error"
  | unknownName _ => "IndexError"

/-- A piece of a template. -/
inductive TemplatePiece where
  | point (c : CodePoint)
  /-- The whole match. -/
  | wholeMatch
  deriving DecidableEq

/-- A template in pieces. -/
abbrev Template := List TemplatePiece

namespace Template

/-- The replacement for a match. -/
def fill (template : Template) (found : Text) : Text :=
  template.flatMap fun
    | .point c => [c]
    | .wholeMatch => found

/-- The code point of an escape that is a backslash and a letter. -/
def letterEscape? (c : CodePoint) : Option CodePoint :=
  if c = 97 then some 7
  else if c = 98 then some 8
  else if c = 102 then some 12
  else if c = 110 then some 10
  else if c = 114 then some 13
  else if c = 116 then some 9
  else if c = 118 then some 11
  else if c = 92 then some 92
  else none

/-- An octal digit. -/
def isOctal (c : CodePoint) : Bool := 48 ≤ c.val && c.val ≤ 55

/-- The number that Latin digits spell to a base. -/
def numberOf (base : Nat) (t : Text) : Nat := ofDigits base (t.map fun c ↦ c.val - 48)

end Template

/-- A unit of a template: a code point, perhaps behind a backslash. -/
structure TemplateUnit where
  /-- Where the unit starts. -/
  position : Nat
  /-- Whether a backslash stands before the code point. -/
  escaped : Bool
  point : CodePoint
  deriving DecidableEq

namespace TemplateUnit

/-- The text of a unit. -/
def text (u : TemplateUnit) : Text := if u.escaped then [92, u.point] else [u.point]

/-- A unit without a backslash whose code point belongs to a class. -/
def isPlain (p : CodePoint → Bool) (u : TemplateUnit) : Bool := !u.escaped && p u.point

/-- The units of a text that starts at a position, and whether a backslash with nothing behind it is
left over. -/
def ofText (position : Nat) : Text → List TemplateUnit × Bool
  | [] => ([], false)
  | [c] => if c = 92 then ([], true) else ([⟨position, false, c⟩], false)
  | c :: e :: rest =>
    if c = 92 then
      let (units, lone) := ofText (position + 2) rest
      (⟨position, true, e⟩ :: units, lone)
    else
      let (units, lone) := ofText (position + 1) (e :: rest)
      (⟨position, false, c⟩ :: units, lone)

end TemplateUnit

namespace Template

/-- Why units cannot be read, and the units that were not yet taken. -/
structure Refusal where
  error : TemplateError
  untaken : List TemplateUnit

/-- The longest beginning of at most `count` units without backslashes from a class, as code points,
and the rest. -/
def spanAtMost (count : Nat) (p : CodePoint → Bool) (units : List TemplateUnit) :
    Text × List TemplateUnit :=
  let run := (units.take count).takeWhile (TemplateUnit.isPlain p)
  (run.map TemplateUnit.point, units.drop run.length)

/-- An escape that starts with a digit: one to three octal digits, or the number of a group. Gives
the piece and what follows. -/
def digitEscape (whole : Text) (position : Nat) (first : CodePoint) (rest : List TemplateUnit) :
    Except Refusal (TemplatePiece × List TemplateUnit) :=
  if first = 48 then
    let (more, rest) := spanAtMost 2 isOctal rest
    .ok (.point (Fin.ofNat _ (numberOf 8 (first :: more) % 256)), rest)
  else
    match spanAtMost 1 CodePoint.isAsciiDigit rest with
    | ([second], third :: after) =>
      if isOctal first ∧ isOctal second ∧ third.isPlain isOctal then
        let n := numberOf 8 [first, second, third.point]
        if 255 < n then
          .error ⟨.flaw (.octalTooLarge [first, second, third.point]) whole position, after⟩
        else .ok (.point (Fin.ofNat _ n), after)
      else .error ⟨.flaw (.noGroup [first, second]) whole (position + 1), third :: after⟩
    | (more, after) => .error ⟨.flaw (.noGroup (first :: more)) whole (position + 1), after⟩

/-- A group's name, found at a position, as a piece: only the number zero has a meaning. -/
def groupNamed (whole : Text) (position : Nat) (name : Text) : Except TemplateError TemplatePiece :=
  if Text.isName name then .error (.unknownName name)
  else
    match Text.readInt name with
    | .ok 0 => .ok .wholeMatch
    | .ok n =>
      .error (.flaw (if n < 0 then .badName name else .noGroup (Text.ofInt n)) whole position)
    | .error _ => .error (.flaw (.badName name) whole position)

/-- A reference by name or number, after its `\g`. -/
def reference (whole : Text) (position : Nat) (rest : List TemplateUnit) :
    Except Refusal (TemplatePiece × List TemplateUnit) :=
  match rest with
  | [] => .error ⟨.flaw .noNameOpening whole (position + 2), []⟩
  | opening :: rest =>
    if !opening.isPlain (· = 60) then
      .error ⟨.flaw .noNameOpening whole (position + 2), opening :: rest⟩
    else
      let name := (rest.takeWhile (!TemplateUnit.isPlain (· = 62) ·)).flatMap TemplateUnit.text
      match rest.dropWhile (!TemplateUnit.isPlain (· = 62) ·) with
      | [] => .error ⟨.flaw (if name = [] then .noName else .openName) whole (position + 3), []⟩
      | _ :: after =>
        if name = [] then .error ⟨.flaw .noName whole (position + 3), after⟩
        else
          match groupNamed whole (position + 3) name with
          | .ok piece => .ok (piece, after)
          | .error error => .error ⟨error, after⟩

/-- The pieces of an escape and what follows it. A backslash before what is no letter and no digit
stands for itself. -/
def escape (whole : Text) (position : Nat) (e : CodePoint) (rest : List TemplateUnit) :
    Except Refusal (Template × List TemplateUnit) :=
  if e = 103 then (reference whole position rest).map fun (piece, rest) ↦ ([piece], rest)
  else if e.isAsciiDigit then
    (digitEscape whole position e rest).map fun (piece, rest) ↦ ([piece], rest)
  else
    match letterEscape? e with
    | some x => .ok ([.point x], rest)
    | none =>
      if e.isAsciiLetter then .error ⟨.flaw (.badEscape e) whole position, rest⟩
      else .ok ([.point 92, .point e], rest)

/-- The pieces of units, after those already read in reverse order, on a budget of one step for each
unit. -/
def ofUnits (whole : Text) : Nat → Template → List TemplateUnit → Except Refusal Template
  | 0, before, _ => .ok before.reverse
  | _ + 1, before, [] => .ok before.reverse
  | budget + 1, before, u :: rest =>
    if !u.escaped then ofUnits whole budget (.point u.point :: before) rest
    else
      match escape whole u.position u.point rest with
      | .error refusal => .error refusal
      | .ok (pieces, rest) => ofUnits whole budget (pieces.reverse ++ before) rest

/-- The pieces of a template. What is wrong with an escape is told only if the escape is not the
last thing before a lone backslash. -/
def parse (template : Text) : Except TemplateError Template :=
  let (units, lone) := TemplateUnit.ofText 0 template
  let loneBackslash := TemplateError.flaw .loneBackslash template (template.length - 1)
  match ofUnits template units.length [] units with
  | .ok pieces => if lone then .error loneBackslash else .ok pieces
  | .error ⟨error, untaken⟩ => .error (if lone ∧ untaken = [] then loneBackslash else error)

end Template

end SignatureBridge
