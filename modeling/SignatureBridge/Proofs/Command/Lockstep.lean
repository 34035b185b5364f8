import SignatureBridge.Command.Reach
import SignatureBridge.Proofs.Command.Steps
import SignatureBridge.Proofs.Host.Likeness
import SignatureBridge.Proofs.Settings.Sources

/-!
# Two runs in lockstep

On hosts that are alike up to a difference each step of a run has the same outcome, as long as the
paths that it takes spare the difference. The lemmas follow the steps of a run one by one, and
`SameOutcome.bind` composes them up to `sameOutcome_fromSettings`: all that comes after two runs
have settled on the same settings.

The environments of the two hosts may differ at that point. The one thing that is still looked up in
them is the suffix of output files (`SuffixOf`).
-/

namespace SignatureBridge

open Journal FileSystem

/-! ### Steps on hosts that are alike -/

namespace Host.SameOutcome

variable {α β : Type} {d : Difference} {host host' : Host}

theorem bind {x y : Action α} {f g : α → Action β} (h : SameOutcome d (x host) (y host'))
    (hf : ∀ a {after after' : Host}, x host = (.ok a, after) → y host' = (.ok a, after') →
      Alike d after after' → SameOutcome d (f a after) (g a after')) :
    SameOutcome d ((x >>= f) host) ((y >>= g) host') := by
  rw [Action.bind_apply, Action.bind_apply]
  generalize x host = outcome at h hf ⊢
  generalize y host' = outcome' at h hf ⊢
  obtain ⟨_ | a, after⟩ := outcome <;> obtain ⟨_, after'⟩ := outcome' <;> obtain ⟨rfl, hafter⟩ := h
  · exact ⟨rfl, hafter⟩
  · exact hf a rfl rfl hafter

theorem attempt {ε : Type} (asFailure : ε → Failure) {f g : Host → Except ε α × Host}
    (h : SameOutcome d (f host) (g host')) :
    SameOutcome d (Run.attempt asFailure f host) (Run.attempt asFailure g host') := by
  rw [Run.attempt_apply, Run.attempt_apply]
  exact ⟨congrArg (Except.mapError _) h.1, h.2⟩

/-- Outcomes are the same whatever the environments are. -/
theorem forget {x y : α × Host} (h : SameOutcome d x y) :
    SameOutcome { d with related := fun _ _ ↦ True } x y := by
  obtain ⟨e, after⟩ := x
  obtain ⟨_, after'⟩ := y
  obtain ⟨rfl, hdirectory, hfiles, -, hchannels⟩ := h
  exact ⟨rfl, .mk hdirectory hfiles trivial hchannels⟩

end Host.SameOutcome

namespace Run

variable {d : Difference} {host host' : Host}

section

variable (h : Host.Alike d host host')
include h

theorem sameOutcome_logAll (records : List Record) :
    Host.SameOutcome d (change (·.logAll records) host) (change (·.logAll records) host') :=
  ⟨rfl, h.logAll records⟩

theorem sameOutcome_failWith {α : Type} (origin : Origin) (report : Text) :
    Host.SameOutcome d (failWith (α := α) origin report host) (failWith origin report host') :=
  ⟨rfl, h.log _⟩

theorem sameOutcome_readArguments (entry : EntryPoint) (words : List Text) :
    Host.SameOutcome d (readArguments entry words host) (readArguments entry words host') := by
  rw [readArguments]
  rcases Arguments.read words with (- | cause) | a
  · exact .bind (.attempt _ (h.print _)) fun _ _ _ _ _ h ↦ ⟨rfl, h⟩
  · exact ⟨rfl, h.complain _⟩
  · exact ⟨rfl, h⟩

theorem sameOutcome_loadSignatures (origin : Origin) {p : FilePath} (hp : d.Spares p) :
    Host.SameOutcome d (loadSignatures origin p host) (loadSignatures origin p host') := by
  rw [loadSignatures_apply, loadSignatures_apply, Host.loadSignatures, Host.loadSignatures,
    h.signatures hp]
  rcases host'.signatures p with cause | loaded
  · exact ⟨rfl, (h.logAll _).log _⟩
  · exact ⟨rfl, h.logAll _⟩

theorem sameOutcome_selectSignatures (origin : Origin) (list : Option Text)
    (loaded : List Signature) :
    Host.SameOutcome d (selectSignatures origin list loaded host)
      (selectSignatures origin list loaded host') := by
  rw [selectSignatures]
  rcases Batch.selection list loaded with unknown | - | ⟨s, rest⟩
  · exact sameOutcome_failWith h origin _
  · exact sameOutcome_failWith h origin _
  · exact ⟨rfl, h⟩

theorem alike_reportAttempts (origin : Origin) (checkOrder verbose : Bool) (total index : Nat)
    (attempts : List Attempt) :
    Host.Alike d (reportAttempts origin checkOrder verbose total index attempts host)
      (reportAttempts origin checkOrder verbose total index attempts host') := by
  induction attempts generalizing index host host' with
  | nil => exact h
  | cons a attempts ih =>
    refine ih ?_ (index + 1)
    rw [reportAttempt, reportAttempt]
    split
    · exact h.logAll _
    · split
      · exact (h.logAll _).complain _
      · exact h.logAll _

theorem sameOutcome_reflectAll (origin : Origin) (t : Tuning) (verbose : Bool)
    (signatures : List Signature) :
    Host.SameOutcome d (reflectAll origin t verbose signatures host)
      (reflectAll origin t verbose signatures host') := by
  have hreported := alike_reportAttempts (h.log ⟨origin, .info,
    "Reflecting " ++ Text.ofNat signatures.length ++ " function(s)"⟩) origin t.checkOrder verbose
    signatures.length 1 (Batch.attempts t.failFast signatures)
  simp only [reflectAll]
  rcases Batch.fatal? (Batch.attempts t.failFast signatures) with - | cause
  · exact ⟨rfl, hreported⟩
  · exact ⟨rfl, hreported⟩

/-- The environments of the hosts give the same suffix to output files as another one. -/
def SuffixOf (later : Environment) (env env' : Environment) : Prop :=
  (Tuning.ofEnvironment env).outputSuffix = (Tuning.ofEnvironment later).outputSuffix ∧
    (Tuning.ofEnvironment env').outputSuffix = (Tuning.ofEnvironment later).outputSuffix

theorem sameOutcome_writeOutput (origin : Origin) {c : Config} (t : Text) {later : Environment}
    (hlater : d.related = SuffixOf later)
    (hp : ∀ directory, c.outputDir.path = .ok directory → d.Spares directory ∧
      d.Spares ((Tuning.ofEnvironment later).outputFile c.signatureFile directory)) :
    Host.SameOutcome d (writeOutput origin c t host) (writeOutput origin c t host') := by
  have hfile : ∀ {env : Environment} (directory : FilePath),
      (Tuning.ofEnvironment env).outputSuffix = (Tuning.ofEnvironment later).outputSuffix →
        (Tuning.ofEnvironment env).outputFile c.signatureFile directory =
          (Tuning.ofEnvironment later).outputFile c.signatureFile directory := by
    intro env directory henv
    rw [Tuning.outputFile, Tuning.outputFile, henv]
  rw [writeOutput_apply, writeOutput_apply]
  have hmade := h.ensureOutputDir fun directory hdirectory ↦ (hp directory hdirectory).1
  rcases hmake : host.ensureOutputDir c with ⟨cause | directory, after⟩
  · rw [hmake] at hmade
    generalize host'.ensureOutputDir c = outcome at hmade ⊢
    obtain ⟨_, after'⟩ := outcome
    obtain ⟨rfl, hafter⟩ := hmade
    exact ⟨rfl, hafter⟩
  · obtain ⟨hdirectory, -⟩ := ensureOutputDir_eq_ok hmake
    rw [hmake] at hmade
    generalize host'.ensureOutputDir c = outcome at hmade ⊢
    obtain ⟨_, after'⟩ := outcome
    obtain ⟨rfl, hafter⟩ := hmade
    obtain ⟨hsuffix, hsuffix'⟩ : SuffixOf later after.environment after'.environment := by
      obtain ⟨-, -, henv, -⟩ := hafter
      exact hlater ▸ henv
    have hwritten := hafter.writeFile (hp directory hdirectory).2 t
    dsimp only
    rw [hfile directory hsuffix, hfile directory hsuffix']
    generalize after.writeFile _ t = outcome at hwritten ⊢
    generalize after'.writeFile _ t = outcome' at hwritten ⊢
    obtain ⟨_ | _, written⟩ := outcome <;> obtain ⟨_, written'⟩ := outcome' <;>
      obtain ⟨rfl, hwritten⟩ := hwritten
    · exact ⟨rfl, hwritten⟩
    · exact ⟨rfl, hwritten.log _⟩

theorem sameOutcome_emit (origin : Origin) (a : Arguments) {c : Config} (t : Text)
    {later : Environment} (hlater : d.related = SuffixOf later)
    (hp : ∀ directory, c.outputDir.path = .ok directory → d.Spares directory ∧
      d.Spares ((Tuning.ofEnvironment later).outputFile c.signatureFile directory)) :
    Host.SameOutcome d (emit origin a c t host) (emit origin a c t host') := by
  rw [emit]
  split
  · exact .attempt _ (h.print _)
  · exact sameOutcome_writeOutput h origin t hlater hp

/-! ### From the settings to the end -/

/-- The steps of a run after its settings are settled. -/
def fromSettings (entry : EntryPoint) (a : Arguments) (t : Tuning) (c : Config) : Action Nat := do
  startLogging entry.origin c t
  let loaded ← loadSignatures entry.origin c.signatureFile
  let signatures ← selectSignatures entry.origin a.functions loaded
  let attempts ← reflectAll entry.origin t c.verbose signatures
  emit entry.origin a c (Batch.output attempts)
  change (·.logAll ((summary signatures.length attempts).map fun line ↦
    ⟨entry.origin, .info, line⟩))
  return exitCode attempts

theorem sameOutcome_startLogging (origin : Origin) (c : Config) (t : Tuning)
    (hp : ∀ directory, c.logDir.path = .ok directory → d.Spares directory ∧
      ((logOptions c t directory host).logFile.absolute d.workingDirectory).Avoids []
        d.location) :
    Host.SameOutcome d (startLogging origin c t host) (startLogging origin c t host') := by
  have hoptions : ∀ directory, logOptions c t directory host' = logOptions c t directory host := by
    obtain ⟨-, -, -, -⟩ := h
    exact fun _ ↦ rfl
  rw [startLogging_apply, startLogging_apply]
  rcases hpath : c.logDir.path with cause | directory
  · exact ⟨rfl, h⟩
  · obtain ⟨hdirectory, hfile⟩ := hp directory hpath
    have hstarted := h.startLogging hdirectory hfile
    dsimp only
    rw [hoptions]
    generalize host.startLogging _ = outcome at hstarted ⊢
    generalize host'.startLogging _ = outcome' at hstarted ⊢
    obtain ⟨_ | _, after⟩ := outcome <;> obtain ⟨_, after'⟩ := outcome' <;>
      obtain ⟨rfl, hstarted⟩ := hstarted
    · exact ⟨rfl, hstarted⟩
    · exact ⟨rfl, hstarted.logAll _⟩

/-- Paths stay away from a location, also if they are read from the root. -/
def StayOff (l workingDirectory : Location) (paths : List FilePath) : Prop :=
  ∀ p ∈ paths, p.Avoids workingDirectory l ∧ (p.absolute workingDirectory).Avoids [] l

instance {l workingDirectory : Location} {paths : List FilePath} :
    Decidable (StayOff l workingDirectory paths) :=
  inferInstanceAs (Decidable (∀ p ∈ paths, _))

theorem sameOutcome_fromSettings (entry : EntryPoint) (a : Arguments) (t : Tuning) (c : Config)
    {later : Environment} (hlater : d.related = SuffixOf later)
    (hreach : StayOff d.location d.workingDirectory (reachOf host.clock t later c)) :
    Host.SameOutcome d (fromSettings entry a t c host) (fromSettings entry a t c host') := by
  have hsignatures : d.Spares c.signatureFile := (hreach c.signatureFile (by simp [reachOf])).1
  have houtput : ∀ directory, c.outputDir.path = .ok directory → d.Spares directory ∧
      d.Spares ((Tuning.ofEnvironment later).outputFile c.signatureFile directory) := by
    intro directory hpath
    have hpath? := DirectoryChoice.path?_of_path hpath
    exact ⟨(hreach directory (by simp [reachOf, hpath?])).1,
      (hreach _ (by simp [reachOf, hpath?])).1⟩
  have hlog : ∀ directory, c.logDir.path = .ok directory → d.Spares directory ∧
      ((logOptions c t directory host).logFile.absolute d.workingDirectory).Avoids []
        d.location := by
    intro directory hpath
    have hpath? := DirectoryChoice.path?_of_path hpath
    exact ⟨(hreach directory (by simp [reachOf, hpath?])).1,
      (hreach _ (by simp [reachOf, hpath?, logOptions])).2⟩
  rw [fromSettings]
  refine .bind (sameOutcome_startLogging h entry.origin c t hlog) fun _ _ _ _ _ h ↦ ?_
  refine .bind (sameOutcome_loadSignatures h entry.origin hsignatures) fun loaded _ _ _ _ h ↦ ?_
  refine .bind (sameOutcome_selectSignatures h entry.origin a.functions loaded)
    fun signatures _ _ _ _ h ↦ ?_
  refine .bind (sameOutcome_reflectAll h entry.origin t c.verbose signatures)
    fun attempts _ _ _ _ h ↦ ?_
  refine .bind (sameOutcome_emit h entry.origin a _ hlater houtput) fun _ _ _ _ _ h ↦ ?_
  exact .bind (sameOutcome_logAll h _) fun _ _ _ _ _ h ↦ ⟨rfl, h⟩

end

/-! ### Whole runs -/

/-- The steps of a run in two: reading the arguments, and the rest. -/
theorem steps_eq_fromSettings (entry : EntryPoint) (words : List Text) :
    steps entry words = readArguments entry words >>= fun a ↦ getThe Host >>= fun host ↦
      configure a >>= fromSettings entry a (Tuning.ofEnvironment host.environment) :=
  rfl

/-- The same settings, on hosts that are alike. -/
theorem sameOutcome_configure {after after' : Host} {a : Arguments} {c : Config}
    (hload : host.loadConfigWith a.overrides = (.ok c, after))
    (hload' : host'.loadConfigWith a.overrides = (.ok c, after')) (h : Host.Alike d after after')
    (hp : d.Spares c.signatureFile) :
    Host.SameOutcome d (configure a host) (configure a host') := by
  rw [configure_apply, configure_apply, Host.configure, Host.configure, hload, hload']
  dsimp only
  rw [h.checkConfig hp]
  rcases after'.checkConfig c with cause | ⟨⟩
  · dsimp only [Except.map]
    split
    · exact ⟨rfl, h.complain _⟩
    · exact ⟨rfl, h⟩
  · exact ⟨rfl, h⟩

/-- Two runs from the loading of the same settings on. -/
theorem sameOutcome_fromConfigure (entry : EntryPoint) {a : Arguments} {t : Tuning} {c : Config}
    {after' : Host}
    (hload : host.loadConfigWith a.overrides = (.ok c, host))
    (hload' : host'.loadConfigWith a.overrides = (.ok c, after')) (h : Host.Alike d host after')
    (hlater : d.related = SuffixOf host.environment)
    (hreach : StayOff d.location d.workingDirectory
      (reachOf host.clock t host.environment c)) :
    Host.SameOutcome d ((configure a >>= fromSettings entry a t) host)
      ((configure a >>= fromSettings entry a t) host') := by
  have hsignatures : d.Spares c.signatureFile := (hreach _ (by simp [reachOf])).1
  refine .bind (sameOutcome_configure hload hload' h hsignatures) fun c' between _ hc _ h ↦ ?_
  obtain ⟨hc, -⟩ := configure_eq_ok hc
  obtain ⟨hsame, rfl⟩ := Prod.mk.inj (hload.symm.trans hc)
  obtain rfl := Except.ok.inj hsame
  exact sameOutcome_fromSettings h entry a t c hlater hreach

/-- Two runs end alike, with the same output and errors and with the same files but at a location,
where each has its own entry. -/
structure SameResult (l : Location) (first second : Option Entry) (x y : Ending × Host) : Prop where
  ending : x.1 = y.1
  output : x.2.output = y.2.output
  errors : x.2.errors = y.2.errors
  files : DifferAt l first second x.2.files y.2.files

theorem sameResult_execute {entry : EntryPoint} {words : List Text}
    (h : Host.SameOutcome d (steps entry words (host.begin (activity entry)))
      (steps entry words (host'.begin (activity entry)))) :
    SameResult d.location d.first d.second (execute entry words host)
      (execute entry words host') := by
  have hresult : ∀ {e : Ending} {after after' : Host}, Host.Alike d after after' →
      SameResult d.location d.first d.second (e, after) (e, after') := by
    rintro e after _ ⟨-, hfiles, -, -⟩
    exact ⟨rfl, rfl, rfl, hfiles⟩
  rw [execute, execute]
  generalize steps entry words (host.begin (activity entry)) = outcome at h ⊢
  generalize steps entry words (host'.begin (activity entry)) = outcome' at h ⊢
  obtain ⟨(code | cause) | code, after⟩ := outcome <;> obtain ⟨_, after'⟩ := outcome' <;>
    obtain ⟨rfl, hafter⟩ := h
  · exact hresult hafter
  · exact hresult (hafter.log _)
  · exact hresult hafter

end Run

end SignatureBridge
