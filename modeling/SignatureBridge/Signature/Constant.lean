import SignatureBridge.Number.Reading
import SignatureBridge.Number.Shortest

/-!
# Default values of Python signatures

A default is a `Constant`: the form in which the source wrote it, and its value. The form is kept
because an integer written in hexadecimal or in binary is to stay so in the output. A form outside
the seven known ones is carried as its tag.

The value is a `Scalar`, and form and value need not agree: a description is checked when it is
read, but a constant can also be made directly. The conversions (`toInt`, `toDouble`, `toText`,
`isTrue`) give what a scalar counts as where a form asks for an integer, a double, a text or a truth
value, or the cause why it counts as none.
-/

namespace SignatureBridge

/-- The value of a default. -/
inductive Scalar where
  | none
  | bool (b : Bool)
  | int (n : Int)
  | double (x : Binary64)
  | text (t : Text)
  deriving DecidableEq

namespace Scalar

/-- The integer that a scalar counts as: a double loses its fraction, a text is read. -/
def toInt : Scalar → Except NumberError Int
  | none => .error .noInteger
  | bool b => .ok (if b then 1 else 0)
  | int n => .ok n
  | double .nan => .error .undefinedInteger
  | double (.infinity _) => .error .infiniteInteger
  | double (.finite negative m e) => .ok (Binary64.truncate negative m e)
  | text t => t.readInt

/-- The double that a scalar counts as. -/
def toDouble : Scalar → Except NumberError Binary64
  | none => .error .noDouble
  | bool b => .ok (if b then .finite false (Nat.pow 2 52) (-52) else .zero false)
  | int n =>
    match Binary64.ofInt? n with
    | some x => .ok x
    | Option.none => .error .beyondDouble
  | double x => .ok x
  | text t => t.readDouble

/-- The text that a scalar counts as. -/
def toText : Scalar → Except NumberError Text
  | none => .ok "None"
  | bool b => .ok (Text.ofBool b)
  | int n => Text.ofInt? n
  | double x => .ok x.text
  | text t => .ok t

/-- The truth value that a scalar counts as: nothing, zero and the empty text are false. -/
def isTrue : Scalar → Bool
  | none => false
  | bool b => b
  | int n => n ≠ 0
  | double x => !x.isZero
  | text t => t ≠ []

/-- The scalar as messages show it. -/
def shown : Scalar → Except NumberError Text
  | text t => .ok t.quoted
  | s => s.toText

/-- The integer of a truth value or an integer. -/
def integral? : Scalar → Option Int
  | bool b => some (if b then 1 else 0)
  | int n => some n
  | _ => Option.none

/-- Whether two scalars are equal: numbers by their value, whatever their kind, truth values
counting as zero and one. -/
def same (s t : Scalar) : Bool :=
  match s.integral?, t.integral? with
  | some m, some n => m = n
  | some m, Option.none => match t with | double y => y.isInteger m | _ => false
  | Option.none, some n => match s with | double x => x.isInteger n | _ => false
  | Option.none, Option.none =>
    match s, t with
    | none, none => true
    | double x, double y => x.sameNumber y
    | text x, text y => x = y
    | _, _ => false

end Scalar

/-- The form in which a signature writes a default. -/
inductive ConstantForm where
  | integer
  | double
  | text
  | bool
  | none
  | hexadecimal
  | binary
  /-- A form that no rule covers, with its tag. -/
  | other (tag : Text)
  deriving DecidableEq

namespace ConstantForm

/-- The tag of a form in descriptions. -/
def tag : ConstantForm → Text
  | integer => "integer"
  | double => "float"
  | text => "string"
  | bool => "bool"
  | none => "none"
  | hexadecimal => "hex_integer"
  | binary => "bin_integer"
  | other tag => tag

/-- The seven forms that descriptions may use. -/
def known : List ConstantForm := [integer, double, text, bool, none, hexadecimal, binary]

/-- The known form of a tag. -/
def ofTag? (t : Text) : Option ConstantForm := known.find? (·.tag = t)

/-- The form of a tag, known or not. -/
def ofTag (t : Text) : ConstantForm := (ofTag? t).getD (other t)

end ConstantForm

/-- A default value: its written form and its value. -/
structure Constant where
  form : ConstantForm
  value : Scalar := .none
  deriving DecidableEq

namespace Constant

/-- The default of a parameter that may be left out and has no default of its own. -/
def missing : Constant := { form := .none }

/-- An integer to a base, with sign and mark: `-0xff`. -/
def marked (mark : Text) (base : Nat) (n : Int) : Text :=
  let sign : Text := if n < 0 then "-" else []
  sign ++ mark ++ (digits base n.natAbs).map digitSmall

/-- The integer in a based form; a value that counts as false stands for zero. -/
def basedInt (value : Scalar) : Except NumberError Int :=
  if value.isTrue then value.toInt else .ok 0

/-- The constant as it is written in a signature. -/
def text (c : Constant) : Except NumberError Text :=
  match c.form with
  | .none => .ok "None"
  | .hexadecimal => (basedInt c.value).map (marked "0x" 16)
  | .binary => (basedInt c.value).map (marked "0b" 2)
  | _ => c.value.shown

end Constant

end SignatureBridge
