import SignatureBridge.Host.Logging
import SignatureBridge.Proofs.Storage.Agreement
import SignatureBridge.Proofs.Text.Delimited

/-!
# How locations end

The paths that the tool makes up end in a fixed suffix, and so do the locations that they lead to,
from the working directory as well as from the root, whatever the rest of the path is
(`FilePath.lastEndsWith_target`, `FilePath.lastEndsWith_absolute`). Locations with different
suffixes are different, which is how a log file, an output file and a directory are told apart.
-/

namespace SignatureBridge

/-- The last of some names ends with a suffix. -/
def LastEndsWith (suffix : Text) (names : List Text) : Prop :=
  ∃ front start, names = front ++ [start ++ suffix]

/-- Names that end with suffixes whose last letters differ are different. -/
theorem LastEndsWith.ne {suffix suffix' : Text} {names names' : List Text} {c c' : CodePoint}
    (h : LastEndsWith (suffix ++ [c]) names) (h' : LastEndsWith (suffix' ++ [c']) names')
    (hne : c ≠ c') : names ≠ names' := by
  obtain ⟨front, start, rfl⟩ := h
  obtain ⟨front', start', rfl⟩ := h'
  intro heq
  have hlast := (List.append_inj' heq rfl).2
  rw [List.singleton_inj, ← List.append_assoc, ← List.append_assoc] at hlast
  exact hne (List.singleton_inj.1 (List.append_inj' hlast rfl).2)

/-- The last piece of a text ends as the text does. -/
theorem Text.lastEndsWith_split {sep : CodePoint} {suffix : Text} (hsep : sep ∉ suffix) (t : Text) :
    LastEndsWith suffix (split sep (t ++ suffix)) := by
  induction t with
  | nil =>
    refine ⟨[], [], ?_⟩
    induction suffix with
    | nil => rfl
    | cons c suffix ih =>
      have hc : c ≠ sep := fun hc ↦ hsep (hc ▸ List.mem_cons_self)
      rw [List.nil_append] at ih ⊢
      rw [split, if_neg hc, ih fun hmem ↦ hsep (List.mem_cons_of_mem c hmem)]
      rfl
  | cons c t ih =>
    obtain ⟨front, start, ih⟩ := ih
    rw [List.cons_append, split, ih]
    split_ifs
    · exact ⟨[] :: front, start, rfl⟩
    · cases front with
      | nil => exact ⟨[], c :: start, rfl⟩
      | cons piece front => exact ⟨(c :: piece) :: front, start, rfl⟩

namespace FilePath

variable {suffix : Text}

/-- A path that is read from a text ends as the text does, unless that is nothing or a dot. -/
theorem lastEndsWith_ofText (hslash : 47 ∉ suffix) (hlength : 2 ≤ suffix.length) (t : Text) :
    LastEndsWith suffix (ofText (t ++ suffix)).names := by
  obtain ⟨front, start, hsplit⟩ := Text.lastEndsWith_split hslash t
  have hkept : start ++ suffix ≠ [] ∧ start ++ suffix ≠ [46] := by
    refine ⟨fun h ↦ ?_, fun h ↦ ?_⟩ <;>
    · have hlengths := congrArg List.length h
      simp only [List.length_append, List.length_nil, List.length_cons] at hlengths
      omega
  refine ⟨front.filter fun name ↦ name ≠ [] ∧ name ≠ [46], start, ?_⟩
  show ((Text.split 47 (t ++ suffix)).filter fun name ↦ name ≠ [] ∧ name ≠ [46]) = _
  rw [hsplit, List.filter_append]
  simp [hkept]

theorem lastEndsWith_append {q : FilePath} (h : LastEndsWith suffix q.names) (p : FilePath) :
    LastEndsWith suffix (p.append q).names := by
  obtain ⟨front, start, hnames⟩ := h
  rw [append]
  split
  · exact ⟨p.names ++ front, start, by simp [hnames]⟩
  · exact ⟨front, start, hnames⟩

/-- A suffix of more than two letters makes a name more than two dots. -/
theorem step_eq (hlength : 3 ≤ suffix.length) (here : Location) (start : Text) :
    FileSystem.step here (start ++ suffix) = here ++ [start ++ suffix] := by
  refine if_neg fun h ↦ ?_
  have hdots : (Text.ofString "..").length = 2 := rfl
  have := congrArg List.length h
  rw [List.length_append, hdots] at this
  omega

theorem lastEndsWith_target {p : FilePath} (h : LastEndsWith suffix p.names)
    (hlength : 3 ≤ suffix.length) (workingDirectory : Location) :
    LastEndsWith suffix (p.target workingDirectory) := by
  obtain ⟨front, start, hnames⟩ := h
  rw [target, hnames, List.foldl_append]
  exact ⟨_, start, step_eq hlength _ start⟩

theorem lastEndsWith_absolute {p : FilePath} (h : LastEndsWith suffix p.names)
    (hlength : 3 ≤ suffix.length) (workingDirectory : Location) :
    LastEndsWith suffix (p.absolute workingDirectory).names := by
  obtain ⟨front, start, hnames⟩ := h
  have hfold : ∀ here : Location,
      LastEndsWith suffix (p.names.foldl FileSystem.step here) := by
    intro here
    rw [hnames, List.foldl_append]
    exact ⟨_, start, step_eq hlength _ start⟩
  rw [absolute]
  split
  · exact hfold _
  · exact hfold _

end FilePath

end SignatureBridge
