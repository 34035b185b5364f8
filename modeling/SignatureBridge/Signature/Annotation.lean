import SignatureBridge.Text.Basic

/-!
# Type annotations of Python signatures

An annotation such as `dict[str, Any]` is a name with arguments that are annotations again. A union
written with a bar is an annotation whose name is the bar. A parameter without annotation has the
annotation `Any`.
-/

namespace SignatureBridge

/-- A type annotation: a name and its arguments. -/
structure Annotation where
  name : Text
  arguments : List Annotation := []

namespace Annotation

/-- The annotation of a parameter that has none. -/
def any : Annotation := { name := "Any" }

/-- An annotation that leaves the type open, with or without its module. -/
def isAny (a : Annotation) : Bool := a.name = "Any" || a.name = "typing.Any"

mutual

/-- The annotation as it is written in a signature. -/
def text : Annotation → Text
  | ⟨name, []⟩ => name
  | ⟨name, first :: rest⟩ => name ++ "[" ++ Text.join ", " (text first :: texts rest) ++ "]"

/-- The written forms of several annotations. -/
def texts : List Annotation → List Text
  | [] => []
  | first :: rest => text first :: texts rest

end

end Annotation

end SignatureBridge
