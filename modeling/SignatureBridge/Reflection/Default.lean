import SignatureBridge.Declaration.Literal

/-!
# The C# literal of a default

`Constant.reflect` gives the literal for a default and says whether the parameter's type has to be
nullable for it. Integers must fit 64 bits; one that fits 32 bits is written bare and a longer one
with the suffix that makes it a `long`. An integer written in hexadecimal or binary keeps its base,
except the least 64-bit one: with a base mark it would be the negative of an unsigned number, so it
is written in decimal. Nothing becomes `null`, and so does a default of a form that no rule covers.
-/

namespace SignatureBridge

/-- Why a default has no literal. -/
inductive DefaultError where
  /-- The integer does not fit 64 bits. -/
  | outOfRange (n : Int)
  /-- The value does not fit the form of the default. -/
  | number (cause : NumberError)
  deriving DecidableEq

namespace DefaultError

/-- The wording of the cause. -/
def message : DefaultError → Text
  | outOfRange n => "Integer default " ++ Text.ofInt n ++ " does not fit in a C# long"
  | number cause => cause.message

/-- The class under which a report files the cause. -/
def category : DefaultError → Text
  | outOfRange _ => "OverflowError"
  | number cause => cause.category

end DefaultError

/-- Whether an integer fits 32 bits with sign. -/
def fitsInt (n : Int) : Bool := -2147483648 ≤ n && n ≤ 2147483647

/-- Whether an integer fits 64 bits with sign. -/
def fitsLong (n : Int) : Bool := -9223372036854775808 ≤ n && n ≤ 9223372036854775807

/-- The least integer that fits 64 bits. -/
def leastLong : Int := -9223372036854775808

namespace Constant

/-- The integer itself if it fits 64 bits. The message for one that does not shows it, so one that
is too long to write is refused for its length. -/
def checkLong (n : Int) : Except DefaultError Int :=
  if fitsLong n then .ok n
  else if n.natAbs < Nat.pow 10 digitLimit then .error (.outOfRange n)
  else .error (.number .writingLimit)

/-- The literal of an integer in a base. An integer of 64 bits is never too long to write. -/
def numeralLiteral (n : Int) (base : Base) (suffix : Text) : Literal :=
  .integer { value := n, base, digits := Numeral.digitsOf base n.natAbs } suffix

/-- The decimal literal of an integer. -/
def decimalLiteral (n : Int) : Literal := numeralLiteral n .decimal (if fitsInt n then [] else "L")

/-- The literal of an integer that the source wrote in a base. -/
def basedLiteral (n : Int) (base : Base) : Literal :=
  if n = leastLong then decimalLiteral n else numeralLiteral n base []

/-- The literal of a double. -/
def doubleLiteral (x : Binary64) : Literal :=
  let text : Text :=
    match x with
    | .nan => "double.NaN"
    | .infinity negative =>
      if negative then "double.NegativeInfinity" else "double.PositiveInfinity"
    | .finite _ _ _ => x.text
  .numeric text (.double x)

/-- The integer that a default counts as, if it fits 64 bits. -/
def longValue (c : Constant) : Except DefaultError Int :=
  match c.value.toInt with
  | .ok n => checkLong n
  | .error cause => .error (.number cause)

/-- The literal of a default, and whether the type of its parameter has to be nullable. -/
def reflect (c : Constant) : Except DefaultError (Literal × Bool) :=
  match c.form with
  | .integer => c.longValue.map fun n ↦ (decimalLiteral n, false)
  | .hexadecimal => c.longValue.map fun n ↦ (basedLiteral n .hexadecimal, false)
  | .binary => c.longValue.map fun n ↦ (basedLiteral n .binary, false)
  | .double =>
    match c.value.toDouble with
    | .ok x => .ok (doubleLiteral x, false)
    | .error cause => .error (.number cause)
  | .text =>
    match c.value with
    | .none => .ok (.string [], false)
    | value =>
      match value.toText with
      | .ok t => .ok (.string t, false)
      | .error cause => .error (.number cause)
  | .bool => .ok (.bool c.value.isTrue, false)
  | .none => .ok (.null, true)
  | .other _ => .ok (.null, true)

/-- The integer that a based default has to write in decimal, with the number of its base. -/
def decimalFallback? (c : Constant) : Option (Nat × Int) :=
  let radix? : Option Nat :=
    match c.form with
    | .hexadecimal => some 16
    | .binary => some 2
    | _ => none
  match radix?, c.longValue with
  | some radix, .ok n => if n = leastLong then some (radix, n) else none
  | _, _ => none

end Constant

end SignatureBridge
