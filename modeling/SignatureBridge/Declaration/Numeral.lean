import SignatureBridge.Number.Error

/-!
# C# integer numerals

A numeral is an integer together with the base in which it is to be written. Its digits are fixed
when it is made and written with the sign in front and the mark of the base between: `-0xFF`,
`0b101`, `10`. A decimal numeral can be too long to write.
-/

namespace SignatureBridge

/-- A base in which C# writes integers. -/
inductive Base where
  | binary
  | decimal
  | hexadecimal
  deriving DecidableEq

namespace Base

/-- The number of the base. -/
def radix : Base → Nat
  | binary => 2
  | decimal => 10
  | hexadecimal => 16

/-- The mark of the base in front of the digits. -/
def mark : Base → Text
  | binary => "0b"
  | decimal => []
  | hexadecimal => "0x"

/-- The base of a number. -/
def ofRadix? (n : Int) : Option Base :=
  if n = 2 then some binary
  else if n = 10 then some decimal
  else if n = 16 then some hexadecimal
  else none

end Base

/-- Why a numeral cannot be made. -/
inductive NumeralError where
  /-- The base is none that C# writes. -/
  | unsupportedBase (base : Int)
  /-- The number or its base is too long to write. -/
  | number (cause : NumberError)
  deriving DecidableEq

namespace NumeralError

/-- The wording of the cause. -/
def message : NumeralError → Text
  | unsupportedBase base => "Unsupported display base: " ++ Text.ofInt base
  | number cause => cause.message

/-- The class under which a report files the cause. -/
def category : NumeralError → Text
  | unsupportedBase _ => "ValueError"
  | number cause => cause.category

end NumeralError

/-- An integer in the base in which it is written, with its digits. -/
structure Numeral where
  value : Int
  base : Base
  digits : Text
  deriving DecidableEq

namespace Numeral

/-- The digits of a magnitude to a base. -/
def digitsOf (base : Base) (magnitude : Nat) : Text :=
  (SignatureBridge.digits base.radix magnitude).map digitCapital

/-- The numeral of an integer to a base. -/
def make (value : Int) (base : Base) : Except NumeralError Numeral :=
  if base = .decimal ∧ Nat.pow 10 digitLimit ≤ value.natAbs then .error (.number .writingLimit)
  else .ok { value, base, digits := digitsOf base value.natAbs }

/-- The numeral of an integer to a base given by its number. A base that is refused is shown. -/
def ofRadix (value : Int) (radix : Int) : Except NumeralError Numeral :=
  match Base.ofRadix? radix with
  | some base => make value base
  | none =>
    match Text.ofInt? radix with
    | .ok _ => .error (.unsupportedBase radix)
    | .error cause => .error (.number cause)

/-- The source text of a numeral. -/
def text (n : Numeral) : Text :=
  let sign : Text := if n.value < 0 then "-" else []
  sign ++ n.base.mark ++ n.digits

end Numeral

end SignatureBridge
