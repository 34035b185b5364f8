import SignatureBridge.Text.Digit
import SignatureBridge.Number.Binary64
import SignatureBridge.Number.Error

/-!
# Reading numbers from text

The two grammars that a default's text is read with. Blanks may stand around the number and one sign
in front of it. Digits may be those of any script, and a single underscore may stand between two
digits. An integer is one run of digits. A double is a decimal with a point and an exponent, each
optional, or one of the words for the infinities and for the value that is not a number, in any
letter case.

An integer that is too long is refused as too long even when the text goes on with something that is
no digit.
-/

namespace SignatureBridge

namespace Text

/-- The longest beginning made of digits and underscores, and the rest. -/
def digitRun (t : Text) : Text × Text :=
  t.span fun c ↦ c.decimalValue?.isSome || c = 95

/-- The digits of a run in which every underscore stands between two digits. -/
def runDigits? (run : Text) : Option (List Nat) :=
  if (split 95 run).all (· ≠ []) then some (run.filterMap CodePoint.decimalValue?) else none

/-- The digits of a run that may be empty. -/
def optionalDigits? (run : Text) : Option (List Nat) := if run = [] then some [] else runDigits? run

/-- Whether the text starts with a minus, and what follows its sign. -/
def sign (t : Text) : Bool × Text :=
  match t with
  | [] => (false, [])
  | c :: rest => if c = 45 then (true, rest) else if c = 43 then (false, rest) else (false, t)

/-- Latin capitals in small form, all else unchanged. -/
def lowerAscii (t : Text) : Text :=
  t.map fun c ↦ if 65 ≤ c.val && c.val ≤ 90 then c + 32 else c

/-- The integer that a text spells. -/
def readInt (t : Text) : Except NumberError Int :=
  let (negative, body) := sign (t.trim CodePoint.isNumberBlank)
  let (run, rest) := digitRun body
  match runDigits? run with
  | none => .error (.malformedInteger t)
  | some ds =>
    if digitLimit < ds.length then .error (.readingLimit ds.length)
    else if rest ≠ [] then .error (.malformedInteger t)
    else .ok (if negative then -(ofDigits 10 ds : Int) else ofDigits 10 ds)

/-- The exponent that a text spells after the digits of a decimal; the empty text spells zero. -/
def readExponent? : Text → Option Int
  | [] => some 0
  | c :: t =>
    if c = 101 ∨ c = 69 then
      let (negative, body) := sign t
      let (run, rest) := digitRun body
      if rest ≠ [] then none
      else
        (runDigits? run).map fun ds ↦ if negative then -(ofDigits 10 ds : Int) else ofDigits 10 ds
    else none

/-- The double nearest to the decimal that a text without a sign spells. -/
def readDecimal? (negative : Bool) (t : Text) : Option Binary64 := do
  let (wholeRun, afterWhole) := digitRun t
  let (fractionRun, afterFraction) :=
    match afterWhole with
    | 46 :: rest => digitRun rest
    | _ => ([], afterWhole)
  let whole ← optionalDigits? wholeRun
  let fraction ← optionalDigits? fractionRun
  if whole = [] ∧ fraction = [] then none
  else
    let exponent ← readExponent? afterFraction
    some (Binary64.ofDecimal negative (ofDigits 10 (whole ++ fraction))
      (exponent - fraction.length))

/-- The double that a text spells. -/
def readDouble (t : Text) : Except NumberError Binary64 :=
  let (negative, body) := sign (t.trim CodePoint.isNumberBlank)
  let word := lowerAscii body
  if word = "inf" ∨ word = "infinity" then .ok (.infinity negative)
  else if word = "nan" then .ok .nan
  else
    match readDecimal? negative body with
    | some x => .ok x
    | none => .error (.malformedDouble t)

end Text

end SignatureBridge
