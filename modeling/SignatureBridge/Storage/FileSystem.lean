import SignatureBridge.Storage.Path
import SignatureBridge.Text.Utf8

/-!
# A file system as a value

A file system is a finite map from locations to entries. A location is the list of names that leads
to an entry from the root; an entry is a directory or a file with its bytes. The root is always a
directory. A path is resolved name by name, from the working directory or from the root: everything
but the last name has to be an existing directory, and two dots lead to the directory above
(`FileSystem.resolve`).

The operations are those of a program: ask for an entry, read, create or empty a file, add to its
end, make a directory, make a directory with the ones above it. A failure is the cause that the
system reports, with the path that was asked for.
-/

namespace SignatureBridge

/-- The names that lead from the root to an entry. -/
abbrev Location := List Text

/-- An entry of a file system. -/
inductive Entry where
  | directory
  | file (bytes : List UInt8)
  deriving DecidableEq

/-- A cause that the system reports for a path. -/
inductive Errno where
  | notFound
  | alreadyExists
  | notDirectory
  | isDirectory
  | nameTooLong
  deriving DecidableEq

namespace Errno

/-- The number of the cause. -/
def number : Errno → Nat
  | notFound => 2
  | alreadyExists => 17
  | notDirectory => 20
  | isDirectory => 21
  | nameTooLong => 36

/-- The wording of the cause. -/
def wording : Errno → Text
  | notFound => "No such file or directory"
  | alreadyExists => "File exists"
  | notDirectory => "Not a directory"
  | isDirectory => "Is a directory"
  | nameTooLong => "File name too long"

/-- The class under which a report files the cause. -/
def category : Errno → Text
  | notFound => "FileNotFoundError"
  | alreadyExists => "FileExistsError"
  | notDirectory => "NotADirectoryError"
  | isDirectory => "IsADirectoryError"
  | nameTooLong => "OSError"

/-- Whether the cause just means that nothing is there. -/
def meansAbsent : Errno → Bool
  | notFound | notDirectory => true
  | _ => false

end Errno

/-- Why an operation on a path failed. -/
inductive FileError where
  /-- The system reported a cause for a path. -/
  | system (errno : Errno) (path : Text)
  /-- The path holds the code point zero, which ends a path for the system. -/
  | nulInPath
  /-- The path has no encoding. -/
  | unencodablePath (cause : Utf8.EncodeError)
  /-- There is no path where one is needed. -/
  | noPath
  deriving DecidableEq

namespace FileError

/-- The wording of the cause. -/
def message : FileError → Text
  | system errno path =>
    "[Errno " ++ Text.ofNat errno.number ++ "] " ++ errno.wording ++ ": " ++ path.quoted
  | nulInPath => "embedded null byte"
  | unencodablePath cause => cause.message
  | noPath => "'list' object has no attribute 'mkdir'"

/-- The class under which a report files the cause. -/
def category : FileError → Text
  | system errno _ => errno.category
  | nulInPath => "ValueError"
  | unencodablePath _ => "UnicodeEncodeError"
  | noPath => "AttributeError"

/-- Whether the path itself is at fault. -/
def isBadPath : FileError → Bool
  | system _ _ => false
  | _ => true

end FileError

/-- A file system: its entries below the root. -/
structure FileSystem where
  entries : List (Location × Entry) := []

namespace FileSystem

/-! ### Entries -/

/-- The entry at a location. -/
def get? (fs : FileSystem) (l : Location) : Option Entry :=
  if l = [] then some .directory else fs.entries.lookup l

/-- The entries with one set. -/
def putEntry (l : Location) (e : Entry) : List (Location × Entry) → List (Location × Entry)
  | [] => [(l, e)]
  | entry :: rest => if entry.1 = l then (l, e) :: rest else entry :: putEntry l e rest

/-- The file system with an entry set. -/
def put (fs : FileSystem) (l : Location) (e : Entry) : FileSystem :=
  { entries := putEntry l e fs.entries }

theorem lookup_putEntry (l k : Location) (e : Entry) (entries : List (Location × Entry)) :
    (putEntry l e entries).lookup k = if k = l then some e else entries.lookup k := by
  induction entries with
  | nil =>
    by_cases h : k = l
    · subst h
      simp [putEntry]
    · have hb : (k == l) = false := by simpa using h
      simp [putEntry, List.lookup_cons, h, hb]
  | cons entry rest ih =>
    obtain ⟨m, x⟩ := entry
    by_cases hm : m = l
    · subst hm
      by_cases h : k = m
      · subst h
        simp [putEntry]
      · have hb : (k == m) = false := by simpa using h
        simp [putEntry, List.lookup_cons, h, hb]
    · by_cases hk : k = m
      · subst hk
        simp [putEntry, hm]
      · have hb : (k == m) = false := by simpa using hk
        simp [putEntry, List.lookup_cons, hm, hb, ih]

/-- Setting an entry changes what is at its location and nothing else. -/
theorem get?_put (fs : FileSystem) {l : Location} (hl : l ≠ []) (e : Entry) (k : Location) :
    (fs.put l e).get? k = if k = l then some e else fs.get? k := by
  unfold get? put
  by_cases hk : k = []
  · subst hk
    simp [Ne.symm hl]
  · simp [hk, lookup_putEntry]

/-! ### Paths -/

/-- The greatest number of bytes of a name, and of a whole path. -/
def nameLimit : Nat := 255

/-- The greatest number of bytes of a path. -/
def pathLimit : Nat := 4095

/-- The number of bytes of a text that has an encoding. -/
def byteCount (t : Text) : Nat := (t.flatMap Utf8.encodePoint).length

/-- The location that a list of names leads to from another location. -/
def walk (fs : FileSystem) : Location → List Text → Except Errno Location
  | here, [] => .ok here
  | here, name :: names =>
    match fs.get? here with
    | none => .error .notFound
    | some (.file _) => .error .notDirectory
    | some .directory =>
      if name = ".." then walk fs here.dropLast names
      else if nameLimit < byteCount name then .error .nameTooLong
      else walk fs (here ++ [name]) names

/-- The location of a path; there need not be anything at it. -/
def resolve (fs : FileSystem) (workingDirectory : Location) (p : FilePath) :
    Except FileError Location :=
  let text := p.text
  match Utf8.surrogates? text with
  | some cause => .error (.unencodablePath cause)
  | none =>
    if text.contains 0 then .error .nulInPath
    else if pathLimit < byteCount text then .error (.system .nameTooLong text)
    else
      let start : Location :=
        match p.start with
        | .workingDirectory => workingDirectory
        | _ => []
      match fs.walk start p.names with
      | .ok l => .ok l
      | .error errno => .error (.system errno text)

/-- The entry of a path. -/
def entryAt (fs : FileSystem) (workingDirectory : Location) (p : FilePath) :
    Except FileError Entry :=
  match fs.resolve workingDirectory p with
  | .error cause => .error cause
  | .ok l =>
    match fs.get? l with
    | some e => .ok e
    | none => .error (.system .notFound p.text)

/-- The entry of a path, or none when nothing is there or the path cannot be one. -/
def probe (fs : FileSystem) (workingDirectory : Location) (p : FilePath) :
    Except FileError (Option Entry) :=
  match fs.entryAt workingDirectory p with
  | .ok e => .ok (some e)
  | .error (.system errno path) =>
    if errno.meansAbsent then .ok none else .error (.system errno path)
  | .error _ => .ok none

/-! ### Files -/

/-- The bytes of a file. -/
def readFile (fs : FileSystem) (workingDirectory : Location) (p : FilePath) :
    Except FileError (List UInt8) :=
  match fs.entryAt workingDirectory p with
  | .ok (.file bytes) => .ok bytes
  | .ok .directory => .error (.system .isDirectory p.text)
  | .error cause => .error cause

/-- The location at which a file can be written: something that is no directory, or nothing in a
directory. -/
def openForWriting (fs : FileSystem) (workingDirectory : Location) (p : FilePath) :
    Except FileError Location :=
  match fs.resolve workingDirectory p with
  | .error cause => .error cause
  | .ok l =>
    match fs.get? l with
    | some .directory => .error (.system .isDirectory p.text)
    | _ => .ok l

/-- The bytes at a location; none if there is no file. -/
def bytesAt (fs : FileSystem) (l : Location) : List UInt8 :=
  match fs.get? l with
  | some (.file bytes) => bytes
  | _ => []

/-- The file system with bytes added to the end of a file, which is created if need be. -/
def appendAt (fs : FileSystem) (l : Location) (bytes : List UInt8) : FileSystem :=
  fs.put l (.file (fs.bytesAt l ++ bytes))

/-! ### Directories -/

/-- Makes one directory. -/
def makeDirectory (fs : FileSystem) (workingDirectory : Location) (p : FilePath) :
    Except FileError FileSystem :=
  match fs.resolve workingDirectory p with
  | .error cause => .error cause
  | .ok l =>
    match fs.get? l with
    | some _ => .error (.system .alreadyExists p.text)
    | none => .ok (fs.put l .directory)

/-- Whether a path denotes a directory. -/
def isDirectory (fs : FileSystem) (workingDirectory : Location) (p : FilePath) : Bool :=
  match fs.entryAt workingDirectory p with
  | .ok .directory => true
  | _ => false

/-- Makes one directory unless it is there already. -/
def ensureDirectory (fs : FileSystem) (workingDirectory : Location) (p : FilePath) :
    Except FileError Unit × FileSystem :=
  match fs.makeDirectory workingDirectory p with
  | .ok fs => (.ok (), fs)
  | .error cause =>
    if !cause.isBadPath && fs.isDirectory workingDirectory p then (.ok (), fs)
    else (.error cause, fs)

/-- Makes a directory and, where they are missing, the ones above it. What was made before a failure
stays. -/
def ensureDirectories (fs : FileSystem) (workingDirectory : Location) (p : FilePath) :
    Except FileError Unit × FileSystem :=
  match fs.makeDirectory workingDirectory p with
  | .ok fs => (.ok (), fs)
  | .error (.system .notFound path) =>
    if p.names = [] then (.error (.system .notFound path), fs)
    else
      match ensureDirectories fs workingDirectory p.parent with
      | (.ok (), fs) => fs.ensureDirectory workingDirectory p
      | (.error cause, fs) => (.error cause, fs)
  | .error cause =>
    if !cause.isBadPath && fs.isDirectory workingDirectory p then (.ok (), fs)
    else (.error cause, fs)
termination_by p.names.length
decreasing_by
  rename_i h
  simp only [FilePath.parent, List.length_dropLast]
  have : p.names.length ≠ 0 := by simpa using h
  omega

/-! ### Listing -/

/-- Whether a directory has an entry in it. -/
def hasChild (fs : FileSystem) (l : Location) : Bool :=
  fs.entries.any fun (k, _) ↦ k ≠ [] ∧ k.dropLast = l

/-- The files below a location and the empty directories, each by its path from there; a directory
ends in a slash and has no bytes. -/
def listing (fs : FileSystem) (base : Location) : List (Text × Option (List UInt8)) :=
  let found := fs.entries.filterMap fun (l, e) ↦
    if base.isPrefixOf l ∧ l ≠ base then
      let path := Text.join [47] (l.drop base.length)
      match e with
      | .file bytes => some (path, some bytes)
      | .directory => if fs.hasChild l then none else some (path ++ [47], none)
    else none
  found.mergeSort fun a b ↦ Text.precedes a.1 b.1

end FileSystem

end SignatureBridge
