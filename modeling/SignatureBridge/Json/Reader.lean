import SignatureBridge.Json.Value
import SignatureBridge.Number.Reading

/-!
# Reading JSON

`Json.read` takes a whole text as one JSON value. It accepts the grammar of JSON and, beyond it, the
numbers `NaN`, `Infinity` and `-Infinity` and unpaired surrogates in the escapes of strings. A fault
names its cause and the line, column and place at which it was found; the first one from the left is
reported.

The functions pass the unread rest of the text along and never an index. A fault therefore notes
what was unread, and the place is worked out once, at the end. Reading is by recursion on a budget
of steps; every letter pays for two, so the budget that `read` gives is never used up.
-/

namespace SignatureBridge.Json

/-- What is wrong with a text that is no JSON value. -/
inductive Flaw where
  | byteOrderMark
  | expectingValue
  | expectingName
  | expectingColon
  | expectingComma
  | extraData
  | unterminatedString
  | controlCharacter
  | unknownEscape
  | unicodeEscape
  deriving DecidableEq

/-- The wording of a flaw. -/
def Flaw.message : Flaw → Text
  | byteOrderMark => "Unexpected UTF-8 BOM (decode using utf-8-sig)"
  | expectingValue => "Expecting value"
  | expectingName => "Expecting property name enclosed in double quotes"
  | expectingColon => "Expecting ':' delimiter"
  | expectingComma => "Expecting ',' delimiter"
  | extraData => "Extra data"
  | unterminatedString => "Unterminated string starting at"
  | controlCharacter => "Invalid control character at"
  | unknownEscape => "Invalid \\escape"
  | unicodeEscape => "Invalid \\uXXXX escape"

/-- Why reading stopped: a flaw, with the text that was unread at its place, or a number. -/
inductive Stop where
  | flaw (cause : Flaw) (unread : Text)
  | number (cause : NumberError)

/-- A place in a text: its distance from the start, and its line and column, counted from one. -/
structure Position where
  offset : Nat
  line : Nat
  column : Nat
  deriving DecidableEq

/-- The place after a beginning of a text. -/
def Position.after (before : Text) : Position :=
  { offset := before.length
    line := before.count 10 + 1
    column := (before.reverse.takeWhile (· ≠ 10)).length + 1 }

/-- Why a text cannot be taken as a JSON value. -/
inductive ReadError where
  | malformed (cause : Flaw) (place : Position)
  | number (cause : NumberError)
  deriving DecidableEq

/-- The wording of a flaw with its place. -/
def malformedMessage (cause : Flaw) (place : Position) : Text :=
  cause.message ++ ": line " ++ Text.ofNat place.line ++ " column " ++
    Text.ofNat place.column ++ " (char " ++
    Text.ofNat place.offset ++ ")"

/-! ### Pieces -/

/-- The white space of JSON. -/
def isSpace (c : CodePoint) : Bool := c = 32 || c = 9 || c = 10 || c = 13

/-- The text after its leading white space. -/
def skipSpace (s : Text) : Text := s.dropWhile isSpace

/-- The number that four hexadecimal digits spell. -/
def hex4? (a b c d : CodePoint) : Option CodePoint := do
  some (Fin.ofNat _ (ofDigits 16 [← a.hexValue?, ← b.hexValue?, ← c.hexValue?, ← d.hexValue?]))

/-- What a backslash and a letter other than `u` stand for. -/
def simpleEscape? (c : CodePoint) : Option CodePoint :=
  if c = 34 ∨ c = 92 ∨ c = 47 then some c
  else if c = 98 then some 8
  else if c = 102 then some 12
  else if c = 110 then some 10
  else if c = 114 then some 13
  else if c = 116 then some 9
  else none

/-- The second half of a surrogate pair, if an escape that spells one comes next and is not the very
end of the text. The outer value is missing when the escape is malformed. -/
def lowHalf? : Text → Option (Option CodePoint)
  | b :: u :: l₁ :: l₂ :: l₃ :: l₄ :: _ :: _ =>
    if b = 92 ∧ u = 117 then
      (hex4? l₁ l₂ l₃ l₄).map fun low ↦ if low.isLowSurrogate then some low else none
    else some none
  | _ => some none

/-- The rest of a string after its opening quote, with what was read before it in reverse. An
escape needs a letter after its four digits, so one at the very end is malformed and the string
not just unterminated. A high surrogate and a low one that follow each other as escapes are one
code point. -/
def stringBody (opening before : Text) : Text → Except Stop (Text × Text)
  | [] => .error (.flaw .unterminatedString opening)
  | c :: rest =>
    if c = 34 then .ok (before.reverse, rest)
    else if c.val ≤ 0x1F then .error (.flaw .controlCharacter (c :: rest))
    else if c ≠ 92 then stringBody opening (c :: before) rest
    else
      match rest with
      | [] => .error (.flaw .unterminatedString opening)
      | e :: tail =>
        if e ≠ 117 then
          match simpleEscape? e with
          | none => .error (.flaw .unknownEscape (c :: rest))
          | some x => stringBody opening (x :: before) tail
        else
          match tail with
          | h₁ :: h₂ :: h₃ :: h₄ :: next :: more =>
            match hex4? h₁ h₂ h₃ h₄ with
            | none => .error (.flaw .unicodeEscape rest)
            | some x =>
              match if x.isHighSurrogate then lowHalf? (next :: more) else some none with
              | none => .error (.flaw .unicodeEscape more)
              | some none => stringBody opening (x :: before) (next :: more)
              | some (some low) => stringBody opening (.ofSurrogates x low :: before) (more.drop 5)
          | _ => .error (.flaw .unicodeEscape rest)
  termination_by s => s.length
  decreasing_by all_goals simp only [List.length_cons, List.length_drop]; omega

/-- A number without its sign: the digits before the point, the rest of its spelling if it is a
double, and what follows. -/
def unsignedNumber? (s : Text) : Option (Text × Text × Text) :=
  let wholeAndRest : Option (Text × Text) :=
    match s with
    | [] => none
    | c :: rest =>
      if c = 48 then some ([48], rest)
      else if c.isAsciiDigit then some (s.span CodePoint.isAsciiDigit)
      else none
  wholeAndRest.map fun (whole, afterWhole) ↦
    let (fraction, afterFraction) : Text × Text :=
      match afterWhole with
      | [] => ([], afterWhole)
      | point :: rest =>
        let (ds, more) := rest.span CodePoint.isAsciiDigit
        if point = 46 ∧ ds ≠ [] then (46 :: ds, more) else ([], afterWhole)
    let (exponent, rest) : Text × Text :=
      match afterFraction with
      | [] => ([], afterFraction)
      | e :: tail =>
        let (mark, body) : Text × Text :=
          match tail with
          | [] => ([], [])
          | c :: body => if c = 43 ∨ c = 45 then ([c], body) else ([], tail)
        let (ds, more) := body.span CodePoint.isAsciiDigit
        if (e = 101 ∨ e = 69) ∧ ds ≠ [] then (e :: mark ++ ds, more) else ([], afterFraction)
    (whole, fraction ++ exponent, rest)

/-- The number at the start of a text. An integer may have at most `maxDigits` digits. -/
def number (maxDigits : Option Nat) (s : Text) : Except Stop (Json × Text) :=
  let (negative, body) : Bool × Text :=
    match s with
    | [] => (false, [])
    | c :: rest => if c = 45 then (true, rest) else (false, s)
  match unsignedNumber? body with
  | none => .error (.flaw .expectingValue s)
  | some (whole, [], rest) =>
    let ds := whole.filterMap CodePoint.hexValue?
    if maxDigits.any (· < ds.length) then .error (.number (.readingLimit ds.length))
    else .ok (.int (if negative then -(ofDigits 10 ds : Int) else ofDigits 10 ds), rest)
  | some (whole, decimals, rest) =>
    match (whole ++ decimals).readDecimal? negative with
    | some x => .ok (.double x, rest)
    | none => .error (.flaw .expectingValue s)

/-- The fixed words that are values. -/
def words : List (Text × Json) :=
  [("null", .null), ("true", .bool true), ("false", .bool false), ("NaN", .double .nan),
    ("Infinity", .double (.infinity false)), ("-Infinity", .double (.infinity true))]

/-- The fixed word at the start of a text. -/
def word? (s : Text) : Option (Json × Text) :=
  words.findSome? fun (word, value) ↦ (s.dropLeading? word).map fun rest ↦ (value, rest)

/-! ### Values -/

mutual

/-- The value at the start of a text. -/
def readValue (maxDigits : Option Nat) : Nat → Text → Except Stop (Json × Text)
  | 0, s => .error (.flaw .expectingValue s)
  | _ + 1, [] => .error (.flaw .expectingValue [])
  | budget + 1, c :: rest =>
    if c = 34 then do
      let (t, rest) ← stringBody (c :: rest) [] rest
      .ok (.text t, rest)
    else if c = 91 then
      match skipSpace rest with
      | 93 :: rest => .ok (.array [], rest)
      | rest => readItems maxDigits budget [] rest
    else if c = 123 then
      match skipSpace rest with
      | 125 :: rest => .ok (.object [], rest)
      | rest => readMembers maxDigits budget [] rest
    else
      match word? (c :: rest) with
      | some result => .ok result
      | none => number maxDigits (c :: rest)

/-- The items of an array from one of them on, with those before it in reverse. -/
def readItems (maxDigits : Option Nat) : Nat → List Json → Text → Except Stop (Json × Text)
  | 0, _, s => .error (.flaw .expectingValue s)
  | budget + 1, before, s => do
    let (item, rest) ← readValue maxDigits budget s
    match skipSpace rest with
    | 93 :: rest => .ok (.array (item :: before).reverse, rest)
    | 44 :: rest => readItems maxDigits budget (item :: before) (skipSpace rest)
    | rest => .error (.flaw .expectingComma rest)

/-- The members of an object from one of them on, after those before it. -/
def readMembers (maxDigits : Option Nat) :
    Nat → List (Text × Json) → Text → Except Stop (Json × Text)
  | 0, _, s => .error (.flaw .expectingValue s)
  | budget + 1, before, s =>
    match s with
    | 34 :: rest => do
      let (name, rest) ← stringBody s [] rest
      match skipSpace rest with
      | 58 :: rest =>
        let (value, rest) ← readValue maxDigits budget (skipSpace rest)
        let members := put name value before
        match skipSpace rest with
        | 125 :: rest => .ok (.object members, rest)
        | 44 :: rest => readMembers maxDigits budget members (skipSpace rest)
        | rest => .error (.flaw .expectingComma rest)
      | rest => .error (.flaw .expectingColon rest)
    | _ => .error (.flaw .expectingName s)

end

/-- The value that follows white space, and nothing after it but white space. -/
def readDocument (maxDigits : Option Nat) (s : Text) : Except Stop Json := do
  if s.head? = some 0xFEFF then .error (.flaw .byteOrderMark s)
  let (value, rest) ← readValue maxDigits (2 * s.length + 2) (skipSpace s)
  match skipSpace rest with
  | [] => .ok value
  | rest => .error (.flaw .extraData rest)

/-- The JSON value that a text spells. Integers may have at most `maxDigits` digits, if a bound is
given. -/
def read (maxDigits : Option Nat) (t : Text) : Except ReadError Json :=
  match readDocument maxDigits t with
  | .ok value => .ok value
  | .error (.flaw cause unread) =>
    .error (.malformed cause (.after (t.take (t.length - unread.length))))
  | .error (.number cause) => .error (.number cause)

end SignatureBridge.Json
