import Mathlib.Data.List.Basic
import SignatureBridge.Storage.FileSystem

/-!
# File systems that agree off a location

What an operation on a path finds depends on the locations that the path leads through, and on no
others. These can be told from the path alone (`FilePath.passes`, `FilePath.target`). So an
operation gives the same on two file systems that agree everywhere but at one location, if the path
avoids that location (`FilePath.Avoids`), and what it leaves behind agrees there again
(`AgreeOff.ensureDirectories`).

`FileSystem.walk` is taken apart once, in `walk_cons`; what the operations on paths need of it is
`AgreeOff.walk` and `walk_eq_ok`.
-/

namespace SignatureBridge

namespace FileSystem

/-! ### Entries -/

/-- Setting an entry changes nothing at other locations. -/
theorem get?_put_of_ne (fs : FileSystem) {l k : Location} (h : k ≠ l) (e : Entry) :
    (fs.put l e).get? k = fs.get? k := by
  unfold get? put
  rw [lookup_putEntry, if_neg h]

/-- Adding to a file adds to it and to no other. -/
theorem bytesAt_appendAt (fs : FileSystem) {l : Location} (hl : l ≠ []) (bytes : List UInt8)
    (k : Location) :
    (fs.appendAt l bytes).bytesAt k = fs.bytesAt k ++ if k = l then bytes else [] := by
  rw [appendAt, bytesAt, get?_put fs hl]
  by_cases hk : k = l
  · rw [if_pos hk, if_pos hk, hk]
  · rw [if_neg hk, if_neg hk, List.append_nil, bytesAt]

/-- There is no directory at a location. -/
def NoDirectory (fs : FileSystem) (l : Location) : Prop := fs.get? l ≠ some .directory

theorem NoDirectory.ne_nil {fs : FileSystem} {l : Location} (h : fs.NoDirectory l) : l ≠ [] := by
  rintro rfl
  exact h rfl

/-- The two file systems agree everywhere but at one location. -/
def AgreeOff (l : Location) (fs fs' : FileSystem) : Prop := ∀ k, k ≠ l → fs.get? k = fs'.get? k

namespace AgreeOff

variable {l : Location} {fs fs' : FileSystem}

theorem refl (l : Location) (fs : FileSystem) : AgreeOff l fs fs := fun _ _ ↦ rfl

theorem trans {fs'' : FileSystem} (h : AgreeOff l fs fs') (h' : AgreeOff l fs' fs'') :
    AgreeOff l fs fs'' :=
  fun k hk ↦ (h k hk).trans (h' k hk)

theorem put_right (h : AgreeOff l fs fs') (e : Entry) : AgreeOff l fs (fs'.put l e) :=
  fun k hk ↦ (h k hk).trans (get?_put_of_ne fs' hk e).symm

/-- Setting the same entry keeps the agreement. -/
theorem put (h : AgreeOff l fs fs') {k : Location} (e : Entry) :
    AgreeOff l (fs.put k e) (fs'.put k e) := by
  intro j hj
  by_cases hk : j = k
  · subst hk
    by_cases hnil : j = []
    · subst hnil
      rfl
    · rw [get?_put fs hnil, get?_put fs' hnil, if_pos rfl, if_pos rfl]
  · rw [get?_put_of_ne fs hk, get?_put_of_ne fs' hk, h j hj]

end AgreeOff

/-! ### Walking -/

/-- One name on from a location; two dots lead to the directory above. -/
def step (here : Location) (name : Text) : Location :=
  if name = ".." then here.dropLast else here ++ [name]

/-- The locations that have to be directories for names to lead on from a location. -/
def passed : Location → List Text → List Location
  | _, [] => []
  | here, name :: names => here :: passed (step here name) names

theorem walk_cons (fs : FileSystem) (here : Location) (name : Text) (names : List Text) :
    fs.walk here (name :: names) =
      match fs.get? here with
      | none => .error .notFound
      | some (.file _) => .error .notDirectory
      | some .directory =>
        if name ≠ ".." ∧ nameLimit < byteCount name then .error .nameTooLong
        else fs.walk (step here name) names := by
  rw [walk]
  rcases fs.get? here with - | - | bytes
  · rfl
  · by_cases hup : name = ".." <;> simp [hup, step]
  · rfl

theorem AgreeOff.walk {l : Location} {fs fs' : FileSystem} (h : AgreeOff l fs fs') :
    ∀ {names : List Text} {here : Location}, l ∉ passed here names →
      fs.walk here names = fs'.walk here names := by
  intro names
  induction names with
  | nil => exact fun _ ↦ rfl
  | cons name names ih =>
    intro here hl
    rw [passed, List.mem_cons, not_or] at hl
    rw [walk_cons, walk_cons, h here (Ne.symm hl.1), ih hl.2]

/-- Names lead on through directories, to where they spell. -/
theorem walk_eq_ok {fs : FileSystem} {l : Location} :
    ∀ {names : List Text} {here : Location}, fs.walk here names = .ok l →
      names.foldl step here = l ∧ ∀ k ∈ passed here names, fs.get? k = some .directory := by
  intro names
  induction names with
  | nil =>
    intro here h
    exact ⟨Except.ok.inj h, fun k hk ↦ absurd hk List.not_mem_nil⟩
  | cons name names ih =>
    intro here h
    rw [walk_cons] at h
    split at h
    · exact absurd h (by simp)
    · exact absurd h (by simp)
    · rename_i hdirectory
      split_ifs at h
      obtain ⟨htarget, hpassed⟩ := ih h
      refine ⟨htarget, fun k hk ↦ ?_⟩
      rcases List.mem_cons.1 hk with rfl | hk
      · exact hdirectory
      · exact hpassed k hk

/-- What leads somewhere still does so when there are more directories. -/
theorem walk_of_keeps {fs fs' : FileSystem} {l : Location}
    (hkeeps : ∀ k, fs.get? k = some .directory → fs'.get? k = some .directory) :
    ∀ {names : List Text} {here : Location}, fs.walk here names = .ok l →
      fs'.walk here names = .ok l := by
  intro names
  induction names with
  | nil => exact fun h ↦ h
  | cons name names ih =>
    intro here h
    have hhere := (walk_eq_ok h).2 here List.mem_cons_self
    rw [walk_cons, hhere] at h
    rw [walk_cons, hkeeps here hhere]
    dsimp only at h ⊢
    split_ifs at h ⊢
    exact ih h

end FileSystem

/-! ### Paths -/

namespace FilePath

/-- The location that the names of a path lead on from. -/
def origin (workingDirectory : Location) (p : FilePath) : Location :=
  match p.start with
  | .workingDirectory => workingDirectory
  | _ => []

/-- The locations that have to be directories for a path to lead somewhere. -/
def passes (workingDirectory : Location) (p : FilePath) : List Location :=
  FileSystem.passed (p.origin workingDirectory) p.names

/-- The location that a path leads to. -/
def target (workingDirectory : Location) (p : FilePath) : Location :=
  p.names.foldl FileSystem.step (p.origin workingDirectory)

/-- A path leads neither to a location nor through it. -/
structure Avoids (workingDirectory : Location) (p : FilePath) (l : Location) : Prop where
  passes : l ∉ p.passes workingDirectory
  target : l ≠ p.target workingDirectory

instance {workingDirectory l : Location} {p : FilePath} : Decidable (p.Avoids workingDirectory l) :=
  decidable_of_iff (l ∉ p.passes workingDirectory ∧ l ≠ p.target workingDirectory)
    ⟨fun h ↦ ⟨h.1, h.2⟩, fun h ↦ ⟨h.passes, h.target⟩⟩

/-- What no system takes for a path. -/
def refusal? (p : FilePath) : Option FileError :=
  match Utf8.surrogates? p.text with
  | some cause => some (.unencodablePath cause)
  | none =>
    if p.text.contains 0 then some .nulInPath
    else if FileSystem.pathLimit < FileSystem.byteCount p.text then
      some (.system .nameTooLong p.text)
    else none

/-- A path that has a last name passes where its parent leads to. -/
theorem passes_eq_of_names_ne_nil {p : FilePath} (h : p.names ≠ []) (workingDirectory : Location) :
    p.passes workingDirectory =
      p.parent.passes workingDirectory ++ [p.parent.target workingDirectory] := by
  have hpassed : ∀ (names : List Text) (name : Text) (here : Location),
      FileSystem.passed here (names ++ [name]) =
        FileSystem.passed here names ++ [names.foldl FileSystem.step here] := by
    intro names name
    induction names with
    | nil => exact fun _ ↦ rfl
    | cons first names ih =>
      intro here
      rw [List.cons_append, FileSystem.passed, ih, FileSystem.passed, List.foldl_cons,
        List.cons_append]
  have horigin : p.parent.origin workingDirectory = p.origin workingDirectory := rfl
  rw [passes, passes, target, horigin, ← hpassed _ (p.names.getLast h)]
  exact congrArg _ (List.dropLast_append_getLast h).symm

theorem Avoids.parent {p : FilePath} {workingDirectory l : Location}
    (h : p.Avoids workingDirectory l) (hnames : p.names ≠ []) :
    p.parent.Avoids workingDirectory l := by
  have hpasses := h.passes
  rw [passes_eq_of_names_ne_nil hnames, List.mem_append, List.mem_singleton, not_or] at hpasses
  exact ⟨hpasses.1, hpasses.2⟩

end FilePath

/-- What holds of a path if it holds of its parent holds of every path. -/
theorem FilePath.inductionOnParent {motive : FilePath → Prop}
    (h : ∀ p : FilePath, (p.names ≠ [] → motive p.parent) → motive p) (p : FilePath) :
    motive p := by
  refine h p fun hnames ↦ inductionOnParent h p.parent
termination_by p.names.length
decreasing_by
  have : 0 < p.names.length := List.length_pos_of_ne_nil hnames
  simp only [FilePath.parent, List.length_dropLast]
  omega

namespace FileSystem

variable {fs fs' : FileSystem} {workingDirectory l : Location} {p : FilePath}

theorem resolve_eq (fs : FileSystem) (workingDirectory : Location) (p : FilePath) :
    fs.resolve workingDirectory p =
      match p.refusal? with
      | some cause => .error cause
      | none => (fs.walk (p.origin workingDirectory) p.names).mapError (.system · p.text) := by
  rw [resolve, FilePath.refusal?, FilePath.origin]
  rcases Utf8.surrogates? p.text with - | cause
  · dsimp only
    split_ifs
    · rfl
    · rfl
    · cases p.start <;> rcases walk fs _ p.names with - | - <;> rfl
  · rfl

/-- A path that can be resolved leads to where its names spell, through directories. -/
theorem resolve_eq_ok (h : fs.resolve workingDirectory p = .ok l) :
    p.target workingDirectory = l ∧
      ∀ k ∈ p.passes workingDirectory, fs.get? k = some .directory := by
  rw [resolve_eq] at h
  split at h
  · exact absurd h (by simp)
  · rcases hwalk : fs.walk (p.origin workingDirectory) p.names with errno | k
    · rw [hwalk] at h
      exact absurd h (by simp [Except.mapError])
    · rw [hwalk] at h
      obtain rfl : k = l := Except.ok.inj h
      exact walk_eq_ok hwalk

/-- A path that avoids a location does not lead to it. -/
theorem ne_of_resolve (hp : p.Avoids workingDirectory l) {k : Location}
    (h : fs.resolve workingDirectory p = .ok k) : k ≠ l := by
  rw [← (resolve_eq_ok h).1]
  exact hp.target.symm

/-- A path avoids what is neither a directory nor where it leads to. -/
theorem avoids_of_resolve {k : Location} (h : fs.resolve workingDirectory p = .ok k)
    (hl : fs.NoDirectory l) (hne : l ≠ k) : p.Avoids workingDirectory l := by
  obtain ⟨htarget, hpasses⟩ := resolve_eq_ok h
  exact ⟨fun hmem ↦ hl (hpasses l hmem), fun heq ↦ hne (heq.trans htarget)⟩

theorem entryAt_eq_ok_iff {e : Entry} :
    fs.entryAt workingDirectory p = .ok e ↔
      ∃ k, fs.resolve workingDirectory p = .ok k ∧ fs.get? k = some e := by
  rw [entryAt]
  rcases fs.resolve workingDirectory p with cause | k
  · simp
  · rcases h : fs.get? k with - | e' <;> simp [h]

theorem readFile_eq_ok {bytes : List UInt8} (h : fs.readFile workingDirectory p = .ok bytes) :
    fs.entryAt workingDirectory p = .ok (.file bytes) := by
  rw [readFile] at h
  split at h
  · rename_i hentry
    obtain rfl := Except.ok.inj h
    exact hentry
  · exact absurd h (by simp)
  · exact absurd h (by simp)

/-- A file can only be written where there is no directory. -/
theorem openForWriting_eq_ok (h : fs.openForWriting workingDirectory p = .ok l) :
    fs.resolve workingDirectory p = .ok l ∧ fs.NoDirectory l := by
  rw [openForWriting] at h
  split at h
  · exact absurd h (by simp)
  · rename_i k hresolve
    split at h
    · exact absurd h (by simp)
    · rename_i hdirectory
      obtain rfl := Except.ok.inj h
      exact ⟨hresolve, hdirectory⟩

namespace AgreeOff

variable (h : AgreeOff l fs fs') (hp : p.Avoids workingDirectory l)
include h hp

theorem resolve : fs.resolve workingDirectory p = fs'.resolve workingDirectory p := by
  rw [resolve_eq, resolve_eq, h.walk hp.passes]

/-- A path leads to the same entry, or fails to for the same cause. -/
theorem entryAt : fs.entryAt workingDirectory p = fs'.entryAt workingDirectory p := by
  rw [FileSystem.entryAt, FileSystem.entryAt, ← h.resolve hp]
  rcases hresolve : fs.resolve workingDirectory p with cause | k
  · rfl
  · dsimp only
    rw [h k (ne_of_resolve hp hresolve)]

theorem probe : fs.probe workingDirectory p = fs'.probe workingDirectory p := by
  rw [FileSystem.probe, FileSystem.probe, h.entryAt hp]

theorem readFile : fs.readFile workingDirectory p = fs'.readFile workingDirectory p := by
  rw [FileSystem.readFile, FileSystem.readFile, h.entryAt hp]

theorem openForWriting :
    fs.openForWriting workingDirectory p = fs'.openForWriting workingDirectory p := by
  rw [FileSystem.openForWriting, FileSystem.openForWriting, ← h.resolve hp]
  rcases hresolve : fs.resolve workingDirectory p with cause | k
  · rfl
  · dsimp only
    rw [h k (ne_of_resolve hp hresolve)]

end AgreeOff

/-! ### Making directories -/

/-- The location at which a directory can be made. -/
def vacancy (fs : FileSystem) (workingDirectory : Location) (p : FilePath) :
    Except FileError Location :=
  match fs.resolve workingDirectory p with
  | .error cause => .error cause
  | .ok k =>
    match fs.get? k with
    | some _ => .error (.system .alreadyExists p.text)
    | none => .ok k

theorem makeDirectory_eq (fs : FileSystem) (workingDirectory : Location) (p : FilePath) :
    fs.makeDirectory workingDirectory p =
      (fs.vacancy workingDirectory p).map (fs.put · .directory) := by
  rw [makeDirectory, vacancy]
  rcases fs.resolve workingDirectory p with cause | k
  · rfl
  · dsimp only
    rcases fs.get? k with - | e <;> rfl

theorem vacancy_eq_ok {k : Location} (h : fs.vacancy workingDirectory p = .ok k) :
    fs.resolve workingDirectory p = .ok k ∧ fs.get? k = none := by
  rw [vacancy] at h
  split at h
  · exact absurd h (by simp)
  · rename_i j hresolve
    split at h
    · exact absurd h (by simp)
    · rename_i hnone
      obtain rfl := Except.ok.inj h
      exact ⟨hresolve, hnone⟩

theorem isDirectory_iff :
    fs.isDirectory workingDirectory p = true ↔
      fs.entryAt workingDirectory p = .ok .directory := by
  rw [isDirectory]
  split <;> simp_all

/-- **Making directories, said once.** A path at which nothing is gets its directory, after its
parent if that is missing; one at which there is a directory stays as it is. -/
theorem ensureDirectories_eq (fs : FileSystem) (workingDirectory : Location) (p : FilePath) :
    fs.ensureDirectories workingDirectory p =
      match fs.vacancy workingDirectory p with
      | .ok k => (.ok (), fs.put k .directory)
      | .error (.system .notFound path) =>
        if p.names = [] then (.error (.system .notFound path), fs)
        else
          match fs.ensureDirectories workingDirectory p.parent with
          | (.ok (), fs) => fs.ensureDirectory workingDirectory p
          | (.error cause, fs) => (.error cause, fs)
      | .error cause =>
        if !cause.isBadPath && fs.isDirectory workingDirectory p then (.ok (), fs)
        else (.error cause, fs) := by
  rw [ensureDirectories, makeDirectory_eq]
  rcases fs.vacancy workingDirectory p with (⟨- | - | - | - | -, path⟩ | - | cause | -) | k <;> rfl

namespace AgreeOff

/-- Two outcomes that are the same, with file systems that agree off a location. -/
def Outcomes {α : Type} (l : Location) (x y : α × FileSystem) : Prop :=
  x.1 = y.1 ∧ AgreeOff l x.2 y.2

section

variable (h : AgreeOff l fs fs') (hp : p.Avoids workingDirectory l)
include h hp

theorem vacancy : fs.vacancy workingDirectory p = fs'.vacancy workingDirectory p := by
  rw [FileSystem.vacancy, FileSystem.vacancy, ← h.resolve hp]
  rcases hresolve : fs.resolve workingDirectory p with cause | k
  · rfl
  · dsimp only
    rw [h k (ne_of_resolve hp hresolve)]

theorem isDirectory : fs.isDirectory workingDirectory p = fs'.isDirectory workingDirectory p := by
  rw [FileSystem.isDirectory, FileSystem.isDirectory, h.entryAt hp]

theorem ensureDirectory :
    Outcomes l (fs.ensureDirectory workingDirectory p)
      (fs'.ensureDirectory workingDirectory p) := by
  rw [FileSystem.ensureDirectory, FileSystem.ensureDirectory, makeDirectory_eq, makeDirectory_eq,
    h.vacancy hp, h.isDirectory hp]
  rcases fs'.vacancy workingDirectory p with cause | k
  · dsimp only [Except.map]
    split_ifs
    · exact ⟨rfl, h⟩
    · exact ⟨rfl, h⟩
  · exact ⟨rfl, h.put .directory⟩

end

/-- **Making the directories of a path gives the same** on file systems that agree off a location
that the path avoids, and they agree off it afterwards. -/
theorem ensureDirectories {workingDirectory : Location} {p : FilePath} :
    ∀ {fs fs' : FileSystem}, AgreeOff l fs fs' → p.Avoids workingDirectory l →
      Outcomes l (fs.ensureDirectories workingDirectory p)
        (fs'.ensureDirectories workingDirectory p) := by
  induction p using FilePath.inductionOnParent with
  | h p ih =>
    intro fs fs' h hp
    rw [ensureDirectories_eq, ensureDirectories_eq fs', h.vacancy hp, h.isDirectory hp]
    rcases fs'.vacancy workingDirectory p with cause | k
    · split
      · exact ⟨rfl, h.put .directory⟩
      · split_ifs with hnames
        · exact ⟨rfl, h⟩
        · have hparent := ih hnames h (hp.parent hnames)
          generalize fs.ensureDirectories workingDirectory p.parent = outcome at hparent ⊢
          generalize fs'.ensureDirectories workingDirectory p.parent = outcome' at hparent ⊢
          obtain ⟨x, g⟩ := outcome
          obtain ⟨y, g'⟩ := outcome'
          obtain ⟨rfl, hg⟩ : x = y ∧ AgreeOff l g g' := hparent
          rcases x with cause | -
          · exact ⟨rfl, hg⟩
          · exact hg.ensureDirectory hp
      · split_ifs <;> exact ⟨rfl, h⟩
    · exact ⟨rfl, h.put .directory⟩

end AgreeOff

/-! ### What is left alone -/

theorem get?_ensureDirectory_of_avoids (fs : FileSystem) (hp : p.Avoids workingDirectory l) :
    (fs.ensureDirectory workingDirectory p).2.get? l = fs.get? l := by
  rw [ensureDirectory, makeDirectory_eq]
  rcases hvacancy : fs.vacancy workingDirectory p with cause | k
  · dsimp only [Except.map]
    split_ifs <;> rfl
  · exact get?_put_of_ne fs (ne_of_resolve hp (vacancy_eq_ok hvacancy).1).symm _

/-- **Making the directories of a path leaves alone** what is at a location that the path avoids. -/
theorem get?_ensureDirectories_of_avoids {workingDirectory : Location} {p : FilePath} :
    ∀ fs : FileSystem, p.Avoids workingDirectory l →
      (fs.ensureDirectories workingDirectory p).2.get? l = fs.get? l := by
  induction p using FilePath.inductionOnParent with
  | h p ih =>
    intro fs hp
    rw [ensureDirectories_eq]
    split
    · rename_i k hvacancy
      exact get?_put_of_ne fs (ne_of_resolve hp (vacancy_eq_ok hvacancy).1).symm _
    · split_ifs with hnames
      · rfl
      · have hparent := ih hnames fs (hp.parent hnames)
        rcases houtcome : fs.ensureDirectories workingDirectory p.parent with ⟨cause | ⟨⟩, g⟩
        · rw [houtcome] at hparent
          exact hparent
        · rw [houtcome] at hparent
          exact (get?_ensureDirectory_of_avoids g hp).trans hparent
    · split_ifs <;> rfl

/-- The two file systems agree everywhere but at one location, where each has its own entry. -/
structure DifferAt (l : Location) (e e' : Option Entry) (fs fs' : FileSystem) : Prop where
  agreeOff : AgreeOff l fs fs'
  first : fs.get? l = e
  second : fs'.get? l = e'

namespace DifferAt

variable {e e' : Option Entry} (h : DifferAt l e e' fs fs')
include h

/-- Setting the same entry elsewhere keeps the difference. -/
theorem put {k : Location} (hk : k ≠ l) (entry : Entry) :
    DifferAt l e e' (fs.put k entry) (fs'.put k entry) :=
  ⟨h.agreeOff.put entry, (get?_put_of_ne fs hk.symm entry).trans h.first,
    (get?_put_of_ne fs' hk.symm entry).trans h.second⟩

/-- Adding the same to another file keeps the difference. -/
theorem appendAt {k : Location} (hk : k ≠ l) (bytes : List UInt8) :
    DifferAt l e e' (fs.appendAt k bytes) (fs'.appendAt k bytes) := by
  rw [FileSystem.appendAt, FileSystem.appendAt, bytesAt, bytesAt, h.agreeOff k hk]
  exact h.put hk _

theorem ensureDirectories (hp : p.Avoids workingDirectory l) :
    (fs.ensureDirectories workingDirectory p).1 = (fs'.ensureDirectories workingDirectory p).1 ∧
      DifferAt l e e' (fs.ensureDirectories workingDirectory p).2
        (fs'.ensureDirectories workingDirectory p).2 :=
  ⟨(h.agreeOff.ensureDirectories hp).1, (h.agreeOff.ensureDirectories hp).2,
    (get?_ensureDirectories_of_avoids fs hp).trans h.first,
    (get?_ensureDirectories_of_avoids fs' hp).trans h.second⟩

end DifferAt

/-! ### More directories -/

/-- A path still leads to where it did when there are more directories. -/
theorem resolve_of_keeps
    (hkeeps : ∀ k, fs.get? k = some .directory → fs'.get? k = some .directory)
    (hresolve : fs.resolve workingDirectory p = .ok l) :
    fs'.resolve workingDirectory p = .ok l := by
  rw [resolve_eq] at hresolve ⊢
  split at hresolve
  · exact absurd hresolve (by simp)
  · rcases hwalk : fs.walk (p.origin workingDirectory) p.names with errno | k
    · rw [hwalk] at hresolve
      exact absurd hresolve (by simp [Except.mapError])
    · rw [hwalk] at hresolve
      rw [walk_of_keeps hkeeps hwalk]
      exact hresolve

/-- What is in the first file system is in the second one too. -/
def Keeps (fs fs' : FileSystem) : Prop := ∀ k e, fs.get? k = some e → fs'.get? k = some e

namespace Keeps

theorem put {k : Location} (h : fs.get? k = none) (e : Entry) : fs.Keeps (fs.put k e) := by
  intro j e' hj
  have hne : j ≠ k := by
    rintro rfl
    exact absurd (h.symm.trans hj) (by simp)
  rw [get?_put_of_ne fs hne, hj]

theorem resolve (h : fs.Keeps fs') (hresolve : fs.resolve workingDirectory p = .ok l) :
    fs'.resolve workingDirectory p = .ok l :=
  resolve_of_keeps (fun k ↦ h k .directory) hresolve

theorem entryAt (h : fs.Keeps fs') {e : Entry} (hentry : fs.entryAt workingDirectory p = .ok e) :
    fs'.entryAt workingDirectory p = .ok e := by
  obtain ⟨k, hresolve, hk⟩ := entryAt_eq_ok_iff.1 hentry
  exact entryAt_eq_ok_iff.2 ⟨k, h.resolve hresolve, h k e hk⟩

end Keeps

/-- The files of the first file system are in the second one, with more at their ends. -/
def Grows (fs fs' : FileSystem) : Prop :=
  ∀ k bytes, fs.get? k = some (.file bytes) → ∃ more, fs'.get? k = some (.file (bytes ++ more))

/-- The second file system is the first one with more directories. -/
def AddsDirectories (fs fs' : FileSystem) : Prop :=
  ∀ k, fs'.get? k = fs.get? k ∨ fs.get? k = none ∧ fs'.get? k = some .directory

namespace AddsDirectories

theorem refl (fs : FileSystem) : fs.AddsDirectories fs := fun _ ↦ .inl rfl

theorem trans {fs'' : FileSystem} (h : fs.AddsDirectories fs') (h' : fs'.AddsDirectories fs'') :
    fs.AddsDirectories fs'' := by
  intro k
  rcases h' k with hk' | ⟨hnone, hdirectory⟩
  · rw [hk']
    exact h k
  · rcases h k with hk | ⟨-, hk⟩
    · exact .inr ⟨hk ▸ hnone, hdirectory⟩
    · exact absurd (hnone.symm.trans hk) (by simp)

theorem put {k : Location} (h : fs.get? k = none) : fs.AddsDirectories (fs.put k .directory) := by
  have hk : k ≠ [] := by
    rintro rfl
    exact absurd h (by simp [get?])
  intro j
  by_cases hj : j = k
  · subst hj
    exact .inr ⟨h, by rw [get?_put fs hk, if_pos rfl]⟩
  · exact .inl (get?_put_of_ne fs hj _)

theorem keeps (h : fs.AddsDirectories fs') : fs.Keeps fs' := by
  intro k e hk
  rcases h k with heq | ⟨hnone, -⟩
  · rw [heq, hk]
  · exact absurd (hnone.symm.trans hk) (by simp)

/-- The files hold what they did. -/
theorem bytesAt (h : fs.AddsDirectories fs') (k : Location) : fs'.bytesAt k = fs.bytesAt k := by
  rw [FileSystem.bytesAt, FileSystem.bytesAt]
  rcases h k with heq | ⟨hnone, hdirectory⟩
  · rw [heq]
  · rw [hnone, hdirectory]

end AddsDirectories

/-- A new directory adds to what there is, and the path leads to it. -/
theorem addsDirectories_of_vacancy {k : Location} (h : fs.vacancy workingDirectory p = .ok k) :
    fs.AddsDirectories (fs.put k .directory) ∧
      (fs.put k .directory).entryAt workingDirectory p = .ok .directory := by
  obtain ⟨hresolve, hnone⟩ := vacancy_eq_ok h
  have hadds : fs.AddsDirectories (fs.put k .directory) := .put hnone
  have hk : k ≠ [] := by
    rintro rfl
    exact absurd hnone (by simp [get?])
  refine ⟨hadds, entryAt_eq_ok_iff.2 ⟨k, hadds.keeps.resolve hresolve, ?_⟩⟩
  rw [get?_put fs hk, if_pos rfl]

theorem addsDirectories_ensureDirectory (fs : FileSystem) (workingDirectory : Location)
    (p : FilePath) :
    fs.AddsDirectories (fs.ensureDirectory workingDirectory p).2 ∧
      ((fs.ensureDirectory workingDirectory p).1 = .ok () →
        (fs.ensureDirectory workingDirectory p).2.entryAt workingDirectory p = .ok .directory) := by
  rw [ensureDirectory, makeDirectory_eq]
  rcases hvacancy : fs.vacancy workingDirectory p with cause | k
  · dsimp only [Except.map]
    split_ifs with hdirectory
    · rw [Bool.and_eq_true, isDirectory_iff] at hdirectory
      exact ⟨.refl fs, fun _ ↦ hdirectory.2⟩
    · exact ⟨.refl fs, fun h ↦ absurd h (by simp)⟩
  · exact ⟨(addsDirectories_of_vacancy hvacancy).1, fun _ ↦ (addsDirectories_of_vacancy hvacancy).2⟩

/-- **Making the directories of a path only adds**, and if it succeeds the path leads to a
directory. -/
theorem addsDirectories_ensureDirectories (workingDirectory : Location) (p : FilePath) :
    ∀ fs : FileSystem, fs.AddsDirectories (fs.ensureDirectories workingDirectory p).2 ∧
      ((fs.ensureDirectories workingDirectory p).1 = .ok () →
        (fs.ensureDirectories workingDirectory p).2.entryAt workingDirectory p =
          .ok .directory) := by
  induction p using FilePath.inductionOnParent with
  | h p ih =>
    intro fs
    rw [ensureDirectories_eq]
    split
    · rename_i k hvacancy
      exact ⟨(addsDirectories_of_vacancy hvacancy).1,
        fun _ ↦ (addsDirectories_of_vacancy hvacancy).2⟩
    · split_ifs with hnames
      · exact ⟨.refl fs, fun h ↦ absurd h (by simp)⟩
      · have hparent := (ih hnames fs).1
        rcases houtcome : fs.ensureDirectories workingDirectory p.parent with ⟨cause | ⟨⟩, g⟩
        · rw [houtcome] at hparent
          exact ⟨hparent, fun h ↦ absurd h (by simp)⟩
        · rw [houtcome] at hparent
          obtain ⟨hadds, hentry⟩ := addsDirectories_ensureDirectory g workingDirectory p
          exact ⟨hparent.trans hadds, hentry⟩
    · split_ifs with hdirectory
      · rw [Bool.and_eq_true, isDirectory_iff] at hdirectory
        exact ⟨.refl fs, fun _ ↦ hdirectory.2⟩
      · exact ⟨.refl fs, fun h ↦ absurd h (by simp)⟩

end FileSystem

end SignatureBridge
