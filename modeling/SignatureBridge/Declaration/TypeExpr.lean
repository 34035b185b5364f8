import SignatureBridge.Text.Basic

/-!
# C# type expressions

A type expression has a name and arguments, may be marked nullable, and may be a tuple type, which
is written by its elements alone. The mark belongs to the outermost type and is set at most once
(`asNullable`), so a written type never has two of them. C# has no tuple type of one element; that
one is the generic `ValueTuple` (`tupleOf`).
-/

namespace SignatureBridge

/-- A C# type expression. -/
structure TypeExpr where
  name : Text
  arguments : List TypeExpr := []
  nullable : Bool := false
  tuple : Bool := false

namespace TypeExpr

/-- A type that is a name. -/
def named (name : Text) : TypeExpr := { name }

/-- A generic type with its arguments. -/
def generic (name : Text) (arguments : List TypeExpr) : TypeExpr := { name, arguments }

/-- The type of tuples of the given elements. -/
def tupleOf : List TypeExpr → TypeExpr
  | [element] => generic "ValueTuple" [element]
  | elements => { name := "ValueTuple", arguments := elements, tuple := true }

/-- The optional form of a type. -/
def asNullable (t : TypeExpr) : TypeExpr := { t with nullable := true }

mutual

/-- The source text of a type. -/
def render : TypeExpr → Text
  | ⟨name, arguments, nullable, tuple⟩ =>
    let body : Text :=
      if tuple then "(" ++ Text.join ", " (renderEach arguments) ++ ")"
      else if arguments.isEmpty then name
      else name ++ "<" ++ Text.join ", " (renderEach arguments) ++ ">"
    if nullable then body ++ "?" else body

/-- The source texts of several types. -/
def renderEach : List TypeExpr → List Text
  | [] => []
  | first :: rest => render first :: renderEach rest

end

mutual

/-- Whether two type expressions are the same, part by part. -/
def same : TypeExpr → TypeExpr → Bool
  | ⟨name, arguments, nullable, tuple⟩, ⟨name', arguments', nullable', tuple'⟩ =>
    name = name' && sameEach arguments arguments' && nullable = nullable' && tuple = tuple'

/-- Whether two lists of type expressions are the same. -/
def sameEach : List TypeExpr → List TypeExpr → Bool
  | [], [] => true
  | s :: ss, t :: ts => same s t && sameEach ss ts
  | _, _ => false

end

end TypeExpr

end SignatureBridge
