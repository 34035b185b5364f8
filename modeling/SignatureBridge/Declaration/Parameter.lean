import SignatureBridge.Declaration.Literal
import SignatureBridge.Declaration.TypeExpr

/-!
# C# parameter declarations

A declaration is a type, an identifier and possibly a default, as in `long y = 10`. It also records
which Python default it stands for after the forcing rules, and whether its type was made nullable
for it. A parameter list is written between parentheses.
-/

namespace SignatureBridge

/-- A C# parameter declaration. -/
structure Declaration where
  identifier : Text
  type : TypeExpr
  default : Option Literal := none
  nullable : Bool := false
  /-- The Python default that the declaration stands for. -/
  effectiveDefault : Option Constant := none

namespace Declaration

/-- A parameter that a caller may leave out. -/
def isOptional (d : Declaration) : Bool := d.default.isSome

/-- The source text of a declaration. -/
def render (d : Declaration) : Text :=
  let default : Text :=
    match d.default with
    | some literal => " = " ++ literal.text
    | none => []
  d.type.render ++ " " ++ d.identifier ++ default

/-- Whether two declarations agree in every part. -/
def same (a b : Declaration) : Bool :=
  let sameDefault : Bool :=
    match a.default, b.default with
    | none, none => true
    | some x, some y => x.same y
    | _, _ => false
  let sameEffective : Bool :=
    match a.effectiveDefault, b.effectiveDefault with
    | none, none => true
    | some x, some y => x.form = y.form && x.value.same y.value
    | _, _ => false
  a.identifier = b.identifier && a.type.same b.type && sameDefault && a.nullable = b.nullable &&
    sameEffective

end Declaration

/-- A C# parameter list. -/
abbrev ParameterList := List Declaration

namespace ParameterList

/-- The source text of a parameter list. -/
def render (ds : ParameterList) : Text := "(" ++ Text.join ", " (ds.map Declaration.render) ++ ")"

/-- The declaration at a place; a negative place counts from the end. -/
def at? (ds : ParameterList) (place : Int) : Option Declaration :=
  let i := if place < 0 then place + ds.length else place
  if i < 0 then none else ds[i.toNat]?

/-- The wording for a place outside the list. -/
def outsideMessage : Text := "tuple index out of range"

/-- Whether two parameter lists agree declaration by declaration. -/
def same : ParameterList → ParameterList → Bool
  | [], [] => true
  | a :: as, b :: bs => a.same b && same as bs
  | _, _ => false

end ParameterList

end SignatureBridge
