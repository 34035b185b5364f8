import Mathlib.Data.List.Basic
import SignatureBridge.Command.Arguments
import SignatureBridge.Proofs.Outcome

/-!
# What the words of a command line spell

The reader of arguments keeps a state while it goes through the words. Here the same is said without
the state. Words spell a list of things that are given, which are the options with their values and
the signature file (`Spells`). The arguments are what this list says, field by field: the last value
of an option counts, a switch is on if it occurs, and there is at most one signature file
(`Arguments.AreGiven`).

Words spell one list at most (`Spells.unique`). That the reader agrees is proved along its recursion
(`Progress.takes_of_interpret`). A step that takes an option or a file takes the arguments from one
list to the list with one thing more.
-/

namespace SignatureBridge

namespace CommandLine

/-- Something that the words of a command line give. -/
inductive Given where
  /-- The signature file. -/
  | file (word : Text)
  /-- An option with its value, which is empty if the option takes none. -/
  | option (s : Switch) (value : Text)
  deriving DecidableEq

namespace Given

/-- The signature file, if it is what is given. -/
def file? : Given → Option FilePath
  | file word => some (.ofText word)
  | option _ _ => none

/-- The value of an option, if this option is what is given. -/
def value? (s : Switch) : Given → Option Text
  | file _ => none
  | option t value => if t = s then some value else none

end Given

/-- The signature files that are given, in order. -/
def filesOf (gs : List Given) : List FilePath := gs.filterMap Given.file?

/-- The values that are given to an option, in order. -/
def valuesOf (s : Switch) (gs : List Given) : List Text := gs.filterMap (Given.value? s)

/-- The value that counts for an option: the last, without dashes that end the options. -/
def lastValue? (s : Switch) (gs : List Given) : Option (Option Text) :=
  (valuesOf s gs).getLast?.map Progress.keptValue?

/-- Classified words spell things that are given. -/
inductive Spells : List Word → List Given → Prop
  | nil : Spells [] []
  /-- Dashes only end the options. -/
  | dashes {words gs} : Spells words gs → Spells (.dashes :: words) gs
  | file {word words gs} : Spells words gs → Spells (.plain word :: words) (.file word :: gs)
  /-- A word of options that are complete. -/
  | options {s isLong attached c words gs} :
      Cluster.ofOption s isLong attached = .ok c → c.waiting = none → Spells words gs →
        Spells (.option s isLong attached :: words)
          (c.complete.map (fun o ↦ .option o.1 o.2) ++ gs)
  /-- A word of options, the last of which takes its value from the next word. -/
  | waiting {s isLong attached c t value words gs} :
      Cluster.ofOption s isLong attached = .ok c → c.waiting = some t → Spells words gs →
        Spells (.option s isLong attached :: .plain value :: words)
          ((c.complete ++ [(t, value)]).map (fun o ↦ .option o.1 o.2) ++ gs)

/-- Words cannot spell two things: each word tells by which rule it spells something. -/
theorem Spells.unique {words : List Word} {gs : List Given} (h : Spells words gs) :
    ∀ {gs' : List Given}, Spells words gs' → gs' = gs := by
  induction h with
  | nil =>
    intro gs' h'
    cases h'
    rfl
  | dashes _ ih =>
    intro gs' h'
    cases h' with
    | dashes h' => exact ih h'
  | file _ ih =>
    intro gs' h'
    cases h' with
    | file h' => rw [ih h']
  | options hc hwaiting _ ih =>
    intro gs' h'
    cases h' with
    | options hc' _ h' =>
      obtain rfl := Except.ok.inj (hc.symm.trans hc')
      rw [ih h']
    | waiting hc' hwaiting' _ =>
      obtain rfl := Except.ok.inj (hc.symm.trans hc')
      exact absurd (hwaiting.symm.trans hwaiting') (by simp)
  | waiting hc hwaiting _ ih =>
    intro gs' h'
    cases h' with
    | options hc' hwaiting' _ =>
      obtain rfl := Except.ok.inj (hc.symm.trans hc')
      exact absurd (hwaiting'.symm.trans hwaiting) (by simp)
    | waiting hc' hwaiting' h' =>
      obtain rfl := Except.ok.inj (hc.symm.trans hc')
      obtain rfl := Option.some.inj (hwaiting.symm.trans hwaiting')
      rw [ih h']

end CommandLine

open CommandLine

/-- Arguments say what is given, and nothing else. -/
structure Arguments.AreGiven (gs : List Given) (a : Arguments) : Prop where
  signatureFile : filesOf gs = a.signatureFile.toList
  outputDir : a.outputDir = (lastValue? .outputDir gs).map .ofValue?
  verbose : a.verbose = decide (valuesOf .verbose gs ≠ [])
  logDir : a.logDir = (lastValue? .logDir gs).map .ofValue?
  functions : a.functions = (lastValue? .function gs).map (·.getD [])
  toOutput : a.toOutput = decide (valuesOf .toOutput gs ≠ [])
  help : valuesOf .help gs = []

namespace CommandLine

@[simp] theorem filesOf_concat_option (gs : List Given) (s : Switch) (value : Text) :
    filesOf (gs ++ [.option s value]) = filesOf gs := by
  simp [filesOf, Given.file?]

@[simp] theorem filesOf_concat_file (gs : List Given) (word : Text) :
    filesOf (gs ++ [.file word]) = filesOf gs ++ [.ofText word] := by
  simp [filesOf, Given.file?]

@[simp] theorem valuesOf_concat_option (gs : List Given) (s t : Switch) (value : Text) :
    valuesOf s (gs ++ [.option t value]) = valuesOf s gs ++ if t = s then [value] else [] := by
  rw [valuesOf, valuesOf, List.filterMap_append]
  by_cases h : t = s <;> simp [Given.value?, h]

@[simp] theorem valuesOf_concat_file (gs : List Given) (s : Switch) (word : Text) :
    valuesOf s (gs ++ [.file word]) = valuesOf s gs := by
  simp [valuesOf, Given.value?]

namespace Progress

/-- How far the words have been gone through when something has been given. -/
structure HasTaken (gs : List Given) (p : Progress) : Prop where
  arguments : p.arguments.AreGiven gs
  awaiting : p.awaiting = p.arguments.signatureFile.isNone

variable {p q : Progress} {gs : List Given}

theorem HasTaken.takeFile (h : p.HasTaken gs) (hawaiting : p.awaiting = true) (word : Text) :
    (p.takeFile word).HasTaken (gs ++ [.file word]) := by
  have hnone : p.arguments.signatureFile = none := by
    rw [← Option.isNone_iff_eq_none, ← h.awaiting, hawaiting]
  obtain ⟨hfile, houtput, hverbose, hlog, hfunctions, hto, hhelp⟩ := h.arguments
  refine ⟨⟨?_, ?_, ?_, ?_, ?_, ?_, ?_⟩, rfl⟩ <;> simp_all [Progress.takeFile, lastValue?]

/-- An option that takes effect is one thing more. -/
theorem HasTaken.takeOption (h : p.HasTaken gs) {o : Switch × Text} (hq : p.takeOption o = .ok q) :
    q.HasTaken (gs ++ [.option o.1 o.2]) := by
  obtain ⟨hfile, houtput, hverbose, hlog, hfunctions, hto, hhelp⟩ := h.arguments
  have hawaiting := h.awaiting
  obtain ⟨s, value⟩ := o
  cases s with
  | help => exact absurd hq (by simp [Progress.takeOption])
  | _ =>
    obtain rfl := Except.ok.inj hq
    refine ⟨⟨?_, ?_, ?_, ?_, ?_, ?_, ?_⟩, ?_⟩ <;> simp_all [lastValue?]

theorem leftOver_of_takeOption {o : Switch × Text} (hq : p.takeOption o = .ok q) :
    q.leftOver = p.leftOver := by
  obtain ⟨s, value⟩ := o
  cases s with
  | help => exact absurd hq (by simp [Progress.takeOption])
  | _ =>
    obtain rfl := Except.ok.inj hq
    rfl

/-- The options of a word are taken one after the other. -/
theorem HasTaken.takeCluster {c : Cluster} (hq : p.takeCluster c = .ok q) (h : p.HasTaken gs) :
    q.HasTaken (gs ++ c.complete.map fun o ↦ .option o.1 o.2) := by
  rw [Progress.takeCluster] at hq
  generalize c.complete = options at hq ⊢
  induction options generalizing p gs with
  | nil =>
    obtain rfl := Except.ok.inj hq
    simpa using h
  | cons o options ih =>
    rw [List.foldlM_cons] at hq
    obtain ⟨between, ho, hrest⟩ := Except.bind_eq_ok_iff.1 hq
    simpa using ih (h.takeOption ho) hrest

theorem leftOver_of_takeCluster {c : Cluster} (hq : p.takeCluster c = .ok q) :
    q.leftOver = p.leftOver := by
  rw [Progress.takeCluster] at hq
  generalize c.complete = options at hq
  induction options generalizing p with
  | nil =>
    obtain rfl := Except.ok.inj hq
    rfl
  | cons o options ih =>
    rw [List.foldlM_cons] at hq
    obtain ⟨between, ho, hrest⟩ := Except.bind_eq_ok_iff.1 hq
    exact (ih hrest).trans (leftOver_of_takeOption ho)

/-- From one state to another, words that leave nothing over are taken as what they spell. -/
def Takes (p : Progress) (words : List Word) (q : Progress) : Prop :=
  p.leftOver = [] ∧ ∀ gs, p.HasTaken gs → ∃ gs', Spells words gs' ∧ q.HasTaken (gs ++ gs')

namespace Takes

variable {words : List Word}

theorem refl (hleft : q.leftOver = []) : q.Takes [] q :=
  ⟨hleft, fun gs h ↦ ⟨[], .nil, by simpa using h⟩⟩

/-- A word that is left over cannot be made good later. -/
theorem false_of_leave {word : Text} (h : (p.leave word).Takes words q) : False :=
  absurd h.1 (List.cons_ne_nil word p.leftOver)

theorem dashes (h : p.Takes words q) : p.Takes (.dashes :: words) q := by
  refine ⟨h.1, fun gs htaken ↦ ?_⟩
  obtain ⟨gs', hspells, hq⟩ := h.2 gs htaken
  exact ⟨gs', .dashes hspells, hq⟩

theorem file {word : Text} (hawaiting : p.awaiting = true) (h : (p.takeFile word).Takes words q) :
    p.Takes (.plain word :: words) q := by
  refine ⟨h.1, fun gs htaken ↦ ?_⟩
  obtain ⟨gs', hspells, hq⟩ := h.2 _ (htaken.takeFile hawaiting word)
  exact ⟨.file word :: gs', .file hspells, by simpa using hq⟩

variable {s : Switch} {isLong : Bool} {attached : Option Text} {c : Cluster} {between : Progress}

theorem options (hc : Cluster.ofOption s isLong attached = .ok c) (hwaiting : c.waiting = none)
    (htake : p.takeCluster c = .ok between) (h : between.Takes words q) :
    p.Takes (.option s isLong attached :: words) q := by
  refine ⟨(leftOver_of_takeCluster htake).symm.trans h.1, fun gs htaken ↦ ?_⟩
  obtain ⟨gs', hspells, hq⟩ := h.2 _ (htaken.takeCluster htake)
  exact ⟨_, .options hc hwaiting hspells, by simpa using hq⟩

theorem waiting {t : Switch} {value : Text} (hc : Cluster.ofOption s isLong attached = .ok c)
    (hwaiting : c.waiting = some t)
    (htake : p.takeCluster { c with complete := c.complete ++ [(t, value)] } = .ok between)
    (h : between.Takes words q) :
    p.Takes (.option s isLong attached :: .plain value :: words) q := by
  refine ⟨(leftOver_of_takeCluster htake).symm.trans h.1, fun gs htaken ↦ ?_⟩
  obtain ⟨gs', hspells, hq⟩ := h.2 _ (htaken.takeCluster htake)
  exact ⟨_, .waiting hc hwaiting hspells, by simpa using hq⟩

end Takes

/-- **The words that the reader goes through without leaving one spell what it takes.** -/
theorem takes_of_interpret {words : List Word} {p q : Progress} (hq : interpret p words = .ok q)
    (hleft : q.leftOver = []) : p.Takes words q := by
  -- along the recursion of the reader, one case for each of its branches
  induction p, words using interpret.induct with
  | case1 p =>
    rw [interpret] at hq
    obtain rfl := Except.ok.inj hq
    exact .refl hleft
  | case2 p word words ih =>
    rw [interpret] at hq
    exact (ih hq).false_of_leave.elim
  | case3 p word words hawaiting ih =>
    rw [interpret, if_pos hawaiting] at hq
    exact .file hawaiting (ih hq).dashes
  | case4 p word words hawaiting ih =>
    rw [interpret, if_neg hawaiting] at hq
    exact (ih hq).false_of_leave.elim
  | case5 p word words hnext ih =>
    rw [interpret.eq_4 _ _ _ hnext] at hq
    by_cases hawaiting : p.awaiting = true
    · rw [if_pos hawaiting] at hq
      rw [dif_pos hawaiting] at ih
      exact .file hawaiting (ih hq)
    · rw [if_neg hawaiting] at hq
      rw [dif_neg hawaiting] at ih
      exact (ih hq).false_of_leave.elim
  | case6 p words ih =>
    rw [interpret] at hq
    by_cases hawaiting : p.awaiting = true
    · rw [if_pos hawaiting] at hq
      rw [dif_pos hawaiting] at ih
      exact (ih hq).dashes
    · rw [if_neg hawaiting] at hq
      rw [dif_neg hawaiting] at ih
      exact (ih hq).false_of_leave.elim
  | case7 p s isLong attached words cause hc =>
    simp [interpret, hc] at hq
  | case8 p s isLong attached c hc words hwaiting stop htake =>
    simp [interpret, hc, hwaiting, htake] at hq
  | case9 p s isLong attached c hc words hwaiting between htake ih =>
    simp only [interpret, hc, hwaiting, htake] at hq
    exact .options hc hwaiting htake (ih hq)
  | case10 p s isLong attached c hc t value words hwaiting stop htake =>
    rw [hwaiting] at htake
    simp [interpret, hc, hwaiting, htake] at hq
  | case11 p s isLong attached c hc t value words hwaiting between htake ih =>
    rw [hwaiting] at htake
    simp only [interpret, hc, hwaiting, htake] at hq
    rw [← hwaiting] at htake
    exact .waiting hc hwaiting htake (ih hq)
  | case12 p s isLong attached words c hc t hwaiting hnext =>
    -- the next word is no value, so the option waits in vain
    rcases words with - | ⟨next, words⟩
    · simp [interpret, hc, hwaiting] at hq
    · cases next with
      | plain value => exact (hnext value words rfl).elim
      | _ => simp [interpret, hc, hwaiting] at hq

end Progress

end CommandLine

/-- **Arguments are what the words of the command line give.** -/
theorem Arguments.areGiven_of_read {words : List Text} {a : Arguments} (h : read words = .ok a) :
    ∃ classified gs, classifyAll words = .ok classified ∧ Spells classified gs ∧ a.AreGiven gs := by
  rw [read] at h
  rcases hclassify : classifyAll words with cause | classified
  · simp [hclassify] at h
  · rcases hinterpret : Progress.interpret {} classified with stop | p
    · simp [hclassify, hinterpret] at h
    · simp only [hclassify, hinterpret] at h
      split_ifs at h with hleft
      obtain rfl := Except.ok.inj h
      have hstart : Progress.HasTaken [] {} := ⟨⟨rfl, rfl, rfl, rfl, rfl, rfl, rfl⟩, rfl⟩
      obtain ⟨gs, hspells, htaken⟩ := (Progress.takes_of_interpret hinterpret hleft).2 [] hstart
      exact ⟨classified, gs, rfl, hspells, htaken.arguments⟩

end SignatureBridge
