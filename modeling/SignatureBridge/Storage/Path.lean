import SignatureBridge.Text.Basic

/-!
# Paths

A path is a list of names, read from a start: the working directory or a root. Slashes only
separate, so empty names and single dots are dropped when a path is read (`FilePath.ofText`), and
equal paths have equal texts. Two dots are kept, because the directory before them may be missing.
Exactly two slashes in front denote a root of their own.

The *stem* of a path is its last name without the part from the last dot on; a dot at either end of
the name does not count.
-/

namespace SignatureBridge

/-- Where a path starts. -/
inductive PathStart where
  | workingDirectory
  | root
  | doubleRoot
  deriving DecidableEq

/-- The text of a start. -/
def PathStart.text : PathStart → Text
  | workingDirectory => []
  | root => "/"
  | doubleRoot => "//"

/-- A path. -/
structure FilePath where
  start : PathStart
  names : List Text
  deriving DecidableEq

namespace FilePath

/-- The path that a text denotes. -/
def ofText (t : Text) : FilePath :=
  let slashes := (t.takeWhile (· = 47)).length
  let start : PathStart :=
    if slashes = 0 then .workingDirectory else if slashes = 2 then .doubleRoot else .root
  { start, names := (t.split 47).filter fun name ↦ name ≠ [] ∧ name ≠ [46] }

/-- The text of a path. -/
def text (p : FilePath) : Text :=
  match p.start, p.names with
  | .workingDirectory, [] => "."
  | start, names => start.text ++ Text.join [47] names

/-- A path read from the end of another; one that starts at a root stands for itself. -/
def append (p q : FilePath) : FilePath :=
  match q.start with
  | .workingDirectory => { p with names := p.names ++ q.names }
  | _ => q

/-- The last name. -/
def name (p : FilePath) : Text := p.names.getLastD []

/-- The path without its last name. -/
def parent (p : FilePath) : FilePath := { p with names := p.names.dropLast }

/-- The part of a name before its last dot, if that dot is at neither end. -/
def stemOf (name : Text) : Text :=
  match name.reverse.dropWhile (· ≠ 46) with
  | [] => name
  | _ :: front => if front = [] ∨ front.length + 1 = name.length then name else front.reverse

/-- The last name without its extension. -/
def stem (p : FilePath) : Text := stemOf p.name

end FilePath

end SignatureBridge
