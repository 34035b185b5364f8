import SignatureBridge.Declaration.Identifier
import SignatureBridge.Declaration.Parameter
import SignatureBridge.Reflection.Annotation
import SignatureBridge.Reflection.Default
import SignatureBridge.Signature.Parameter

/-!
# C# parameter lists of Python signatures

Python has parameters that C# has not. The bare slash is left out. The parameters that gather
further arguments get fixed types and may be left out, and so may keyword-only parameters: C# wants
every parameter after an optional one to be optional too. Where such a parameter has no default, its
default is forced to be nothing (`Parameter.effectiveDefault`).

`Parameter.declare` treats one entry and `declarations` a whole list, in order; the first entry that
fails decides. A list is not put in another order when a required parameter follows an optional one;
`misordered` finds these places.
-/

namespace SignatureBridge

/-- Why a parameter has no declaration. -/
inductive ReflectError where
  /-- No rule covers the kind of the parameter. -/
  | unsupportedKind (name : Text)
  /-- The default has no literal. -/
  | default (cause : DefaultError)
  deriving DecidableEq

namespace ReflectError

/-- The wording of the cause. -/
def message : ReflectError → Text
  | unsupportedKind name => "Unsupported parameter kind: " ++ name.quoted
  | default cause => cause.message

/-- The class under which a report files the cause. -/
def category : ReflectError → Text
  | unsupportedKind _ => "NotImplementedError"
  | default cause => cause.category

/-- Whether a batch takes note of the cause and goes on. -/
def isExpected (e : ReflectError) : Bool :=
  e.category = "NotImplementedError" || e.category = "OverflowError"

end ReflectError

namespace Annotation

/-- The annotation that a starred parameter counts as having. -/
def anyTuple : Annotation := { name := "tuple", arguments := [.any] }

/-- The annotation that a doubly starred parameter counts as having. -/
def anyDict : Annotation := { name := "dict", arguments := [{ name := "str" }, .any] }

end Annotation

namespace Parameter

/-- The annotation that decides the type; the bare slash has none. -/
def typing (p : Parameter) : Except ReflectError (Option Annotation) :=
  match p.kind with
  | .positionalOnlyMarker => .ok none
  | .variadicPositional => .ok (some .anyTuple)
  | .variadicKeyword => .ok (some .anyDict)
  | .normal => .ok (some p.type)
  | .other name => .error (.unsupportedKind name)

/-- The C# type of a parameter; the bare slash has none. -/
def reflectType (p : Parameter) : Except ReflectError (Option TypeExpr) :=
  p.typing.map (Option.map Annotation.reflect)

/-- The default after forcing one where C# needs it. -/
def effectiveDefault (p : Parameter) : Option Constant :=
  match p.default with
  | some c => some c
  | none => if p.kind.isVariadic || p.keywordOnly then some .missing else none

/-- A declaration of a type for a name and a default. -/
def declareAs (name : Text) (type : TypeExpr) : Option Constant → Except DefaultError Declaration
  | none => .ok { identifier := Identifier.normalize name, type }
  | some c =>
    c.reflect.map fun (literal, nullable) ↦
      { identifier := Identifier.normalize name
        type := if nullable then type.asNullable else type
        default := some literal
        nullable
        effectiveDefault := some c }

/-- The declaration of a parameter; the bare slash has none. -/
def declare (p : Parameter) : Except ReflectError (Option Declaration) :=
  match p.reflectType with
  | .error cause => .error cause
  | .ok none => .ok none
  | .ok (some type) =>
    match declareAs p.name type p.effectiveDefault with
    | .ok d => .ok (some d)
    | .error cause => .error (.default cause)

/-- The declarations of a parameter list, in order. -/
def declarations : List Parameter → Except ReflectError ParameterList
  | [] => .ok []
  | p :: ps =>
    match p.declare with
    | .error cause => .error cause
    | .ok none => declarations ps
    | .ok (some d) => (declarations ps).map (d :: ·)

end Parameter

namespace ParameterList

/-- The required declarations after an optional one, each with the identifiers of itself and of the
first optional one. The first argument is that identifier if it came earlier. -/
def misorderedAfter : Option Text → ParameterList → List (Text × Text)
  | _, [] => []
  | first?, d :: ds =>
    if d.isOptional then misorderedAfter (some (first?.getD d.identifier)) ds
    else
      match first? with
      | none => misorderedAfter none ds
      | some first => (d.identifier, first) :: misorderedAfter (some first) ds

/-- The required declarations after an optional one, each with the identifiers of itself and of the
first optional one. -/
def misordered (ds : ParameterList) : List (Text × Text) := misorderedAfter none ds

end ParameterList

namespace Signature

/-- The output line of a signature: its name and its C# parameter list. -/
def reflect (s : Signature) : Except ReflectError Text :=
  (Parameter.declarations s.parameters).map fun ds ↦ s.name ++ ds.render

end Signature

end SignatureBridge
