import SignatureBridge.Storage.FileSystem

/-!
# Directories that settings choose

A setting chooses a directory by its path. An option of the command line can also be given with
nothing for a value, and then it chooses no directory. Such a choice is carried along and shown like
any other; what is wrong with it is found out when the directory is to be made
(`DirectoryChoice.path`).
-/

namespace SignatureBridge

/-- The directory that a setting chooses. -/
inductive DirectoryChoice where
  | at (p : FilePath)
  /-- No directory. -/
  | nowhere
  deriving DecidableEq

namespace DirectoryChoice

/-- The choice that a text spells. -/
def ofText (t : Text) : DirectoryChoice := .at (.ofText t)

/-- The choice that the value of an option spells, if it has one. -/
def ofValue? : Option Text → DirectoryChoice
  | some value => ofText value
  | none => nowhere

/-- The choice as records show it. -/
def text : DirectoryChoice → Text
  | .at p => p.text
  | nowhere => "[]"

/-- The path of the directory, for which there has to be one. -/
def path : DirectoryChoice → Except FileError FilePath
  | .at p => .ok p
  | nowhere => .error .noPath

/-- The path of the directory, if there is one. -/
def path? : DirectoryChoice → Option FilePath
  | .at p => some p
  | nowhere => none

end DirectoryChoice

end SignatureBridge
