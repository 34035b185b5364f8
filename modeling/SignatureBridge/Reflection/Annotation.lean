import SignatureBridge.Declaration.TypeExpr
import SignatureBridge.Signature.Annotation

/-!
# The C# type of an annotation

`Annotation.reflect` maps every annotation to a type of a small closed grammar: the dynamic type
`PyObject`, the five scalar types, read-only lists and dictionaries, tuples, and the nullable form
of each. The head of an annotation decides (`Head`); a name means the same with and without one of
the three module names in front. An annotation with an unknown head becomes `PyObject`, and
`Annotation.unmapped` lists the ones met on the way, in the order in which they are met, so that
they can be reported.

The recursion is on the annotation alone: the arguments are reflected first and then arranged by the
head, which looks at the names of the arguments only to find an ellipsis or the members of a union
that stand for nothing.
-/

namespace SignatureBridge

/-- The dynamic type. -/
def TypeExpr.pyObject : TypeExpr := .named "PyObject"

/-- What the name of an annotation stands for. -/
inductive Head where
  /-- A name that leaves the type open. -/
  | dynamic
  /-- A scalar type with its C# name. -/
  | scalar (target : Text)
  | list
  | tuple
  | mapping
  | optional
  | union
  | unknown
  deriving DecidableEq

namespace Head

/-- The module names that an annotation may carry. -/
def modules : List Text := ["typing.", "collections.abc.", "builtins."]

/-- A name without the module name in front of it. -/
def bareName (name : Text) : Text := (modules.findSome? name.dropLeading?).getD name

/-- The names with a meaning. -/
def names : List (Text × Head) :=
  [("Any", dynamic), ("object", dynamic), ("None", dynamic), ("NoneType", dynamic),
    ("int", scalar "long"), ("float", scalar "double"), ("str", scalar "string"),
    ("bool", scalar "bool"),
    ("bytes", scalar "byte[]"),
    ("list", list), ("List", list), ("Sequence", list),
    ("tuple", tuple), ("Tuple", tuple),
    ("dict", mapping), ("Dict", mapping), ("Mapping", mapping),
    ("Optional", optional),
    ("Union", union), ("|", union)]

/-- The meaning of a name. -/
def ofName (name : Text) : Head := (names.lookup (bareName name)).getD unknown

end Head

namespace Annotation

/-- An annotation that stands for the absence of a value. -/
def isNone (a : Annotation) : Bool :=
  let name := Head.bareName a.name
  name = "None" || name = "NoneType"

/-- The members of a union that stand for a value, each with what belongs to it. -/
def valueMembers {α : Type} (arguments : List Annotation) (images : List α) : List α :=
  ((arguments.zip images).filter fun member ↦ !member.1.isNone).map (·.2)

/-- The type of an annotation from its head, its arguments and their types. -/
def arrange (head : Head) (arguments : List Annotation) (types : List TypeExpr) : TypeExpr :=
  let type (i : Nat) : TypeExpr := types[i]?.getD .pyObject
  match head with
  | .dynamic => .pyObject
  | .scalar target => .named target
  | .list => .generic "IReadOnlyList" [type 0]
  | .tuple =>
    match arguments with
    | [] => .tupleOf [.pyObject]
    | [_, second] =>
      if second.name = "..." then .generic "IReadOnlyList" [type 0] else .tupleOf types
    | _ => .tupleOf types
  | .mapping => .generic "IReadOnlyDictionary" [type 0, type 1]
  | .optional =>
    match types with
    | [member] => member.asNullable
    | _ => .pyObject
  | .union =>
    match valueMembers arguments types with
    | [member] => if 1 < arguments.length then member.asNullable else .pyObject
    | _ => .pyObject
  | .unknown => .pyObject

mutual

/-- The C# type of an annotation. -/
def reflect : Annotation → TypeExpr
  | ⟨name, arguments⟩ => arrange (Head.ofName name) arguments (reflectEach arguments)

/-- The C# types of several annotations. -/
def reflectEach : List Annotation → List TypeExpr
  | [] => []
  | first :: rest => reflect first :: reflectEach rest

end

/-- The unmapped annotations under an annotation, from its head and those under each of its
arguments. Only the arguments that the type is made of count. -/
def arrangeUnmapped (a : Annotation) (head : Head) (inner : List (List Annotation)) :
    List Annotation :=
  match head with
  | .dynamic | .scalar _ => []
  | .list => (inner.take 1).flatten
  | .tuple =>
    match a.arguments with
    | [_, second] => if second.name = "..." then (inner.take 1).flatten else inner.flatten
    | _ => inner.flatten
  | .mapping => (inner.take 2).flatten
  | .optional => if a.arguments.length = 1 then inner.flatten else [a]
  | .union =>
    match valueMembers a.arguments inner with
    | [member] => if 1 < a.arguments.length then member else []
    | _ => []
  | .unknown => [a]

mutual

/-- The annotations without a C# counterpart that reflecting an annotation meets, in order. -/
def unmapped : Annotation → List Annotation
  | ⟨name, arguments⟩ =>
    arrangeUnmapped ⟨name, arguments⟩ (Head.ofName name) (unmappedEach arguments)

/-- The annotations without a C# counterpart under each of several annotations. -/
def unmappedEach : List Annotation → List (List Annotation)
  | [] => []
  | first :: rest => unmapped first :: unmappedEach rest

end

end Annotation

end SignatureBridge
