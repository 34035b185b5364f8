import SignatureBridge.Signature.Annotation
import SignatureBridge.Signature.Constant

/-!
# Python signatures

A signature is a function's name with its parameters in order. The bare slash that ends the
positional-only parameters is an entry of its own kind, as are the parameters that gather further
arguments. A kind that no rule covers is carried as its name.
-/

namespace SignatureBridge

/-- The kind of an entry of a parameter list. -/
inductive ParameterKind where
  | normal
  | variadicPositional
  | variadicKeyword
  | positionalOnlyMarker
  /-- A kind that no rule covers, with its name. -/
  | other (name : Text)
  deriving DecidableEq

namespace ParameterKind

/-- The name of a kind in descriptions. -/
def name : ParameterKind → Text
  | normal => "normal"
  | variadicPositional => "variadic_positional"
  | variadicKeyword => "variadic_keyword"
  | positionalOnlyMarker => "positional_only_marker"
  | other name => name

/-- The four kinds that descriptions may use. -/
def known : List ParameterKind :=
  [normal, variadicPositional, variadicKeyword, positionalOnlyMarker]

/-- The known kind of a name. -/
def ofName? (t : Text) : Option ParameterKind := known.find? (·.name = t)

/-- The kind of a name, known or not. -/
def ofName (t : Text) : ParameterKind := (ofName? t).getD (other t)

/-- A kind that gathers any number of arguments. -/
def isVariadic : ParameterKind → Bool
  | variadicPositional | variadicKeyword => true
  | _ => false

/-- What stands before the name of an entry of the kind. -/
def stars : ParameterKind → Text
  | variadicPositional => "*"
  | variadicKeyword => "**"
  | _ => []

end ParameterKind

/-- An entry of a parameter list. -/
structure Parameter where
  name : Text
  kind : ParameterKind := .normal
  type : Annotation := .any
  default : Option Constant := none
  keywordOnly : Bool := false

namespace Parameter

/-- The bare slash. -/
def slash : Parameter := { name := "/", kind := .positionalOnlyMarker }

/-- A parameter that gathers positional arguments. -/
def starred (name : Text := "args") : Parameter := { name, kind := .variadicPositional }

/-- A parameter that gathers keyword arguments. -/
def doubleStarred (name : Text := "kwargs") : Parameter := { name, kind := .variadicKeyword }

/-- The entry as it is written in a signature. Only a normal parameter shows its annotation, and not
the open one. -/
def text (p : Parameter) : Except NumberError Text :=
  if p.kind = .positionalOnlyMarker then .ok "/"
  else
    let type : Text := if p.kind = .normal ∧ ¬ p.type.isAny then ": " ++ p.type.text else []
    let head := p.kind.stars ++ p.name ++ type
    match p.default with
    | none => .ok head
    | some c => c.text.map fun t ↦ head ++ " = " ++ t

end Parameter

/-- A function: its name, its parameters in order and the annotation of its result. -/
structure Signature where
  name : Text
  parameters : List Parameter := []
  result : Annotation := .any

end SignatureBridge
