import SignatureBridge.Declaration.Numeral
import SignatureBridge.Declaration.StringLiteral
import SignatureBridge.Signature.Constant

/-!
# C# literals

A literal is a source text with the category it belongs to and the value it stands for.
-/

namespace SignatureBridge

/-- The category of a literal. -/
inductive LiteralKind where
  | numeric
  | string
  | trueWord
  | falseWord
  | nullWord
  deriving DecidableEq

namespace LiteralKind

/-- The name of a category. -/
def name : LiteralKind → Text
  | numeric => "numeric"
  | string => "string"
  | trueWord => "true"
  | falseWord => "false"
  | nullWord => "null"

/-- All categories. -/
def all : List LiteralKind := [numeric, string, trueWord, falseWord, nullWord]

/-- The category of a name. -/
def ofName? (t : Text) : Option LiteralKind := all.find? (·.name = t)

/-- The wording for a name that is no category. -/
def unknownMessage (t : Text) : Text := t.quoted ++ " is not a valid LiteralKind"

end LiteralKind

/-- A literal expression. -/
structure Literal where
  kind : LiteralKind
  text : Text
  value : Scalar := .none
  deriving DecidableEq

namespace Literal

/-- The null literal. -/
def null : Literal := { kind := .nullWord, text := "null" }

/-- The literal of a truth value. -/
def bool (b : Bool) : Literal :=
  if b then { kind := .trueWord, text := "true", value := .bool true }
  else { kind := .falseWord, text := "false", value := .bool false }

/-- A number with the text that stands for it. -/
def numeric (text : Text) (value : Scalar) : Literal := { kind := .numeric, text, value }

/-- An integer literal: a numeral and the suffix that fixes its type. -/
def integer (n : Numeral) (suffix : Text) : Literal := numeric (n.text ++ suffix) (.int n.value)

/-- The string literal of a text. -/
def string (t : Text) : Literal :=
  { kind := .string, text := StringLiteral.quote t, value := .text t }

/-- Whether two literals agree in category, text and value. -/
def same (a b : Literal) : Bool := a.kind = b.kind && a.text = b.text && a.value.same b.value

end Literal

end SignatureBridge
