import SignatureBridge.Proofs.Command.Lockstep
import SignatureBridge.Proofs.Host.Recording

/-!
# An environment file in place of variables

A run loads the environment file `.env` before it looks up its settings, so that assignments in the
file do what variables do. What the file assigns is a matter of its reader: `EnvFile.Gives` says
that it can be read and that loading it sets some names and no others.

Three of the finer settings come too early for that. A run looks them up before it loads the file,
so of the assignments only the others count (`lateAssignments`). With these the run with the file
and the run with the variables settle on the same settings, and from there they go in lockstep.
Hence `execute_withEnvFile`: the two runs have the same result whenever no assignment is early, and
otherwise the file does what the late assignments do.

The two file systems differ in the environment file itself. The runs have to stay away from its
place, which can be told from the paths that a run with the variables can reach (`Run.reach`).
-/

namespace SignatureBridge

open Journal FileSystem

/-! ### Loading the settings -/

/-- The bytes of an environment file give assignments to an environment: they can be read, and
loading them sets the names that are assigned and no others. -/
def EnvFile.Gives (bytes : List UInt8) (env : Environment) (assignments : List (Text × Text)) :
    Prop :=
  ∃ t after, Host.envFileText (.file bytes) = .ok t ∧ malformedLines t = [] ∧
    load t env = (.ok (), after) ∧ ∀ name, after.get? name = (env.setAll assignments).get? name

namespace FileSystem

variable {fs : FileSystem} {workingDirectory l : Location} {p : FilePath}

theorem probe_of_absent (h : fs.resolve workingDirectory p = .ok l) (habsent : fs.get? l = none) :
    fs.probe workingDirectory p = .ok none := by
  rw [probe, entryAt, h]
  simp only [habsent]
  rfl

/-- Something that is put where a path leads is found there. -/
theorem probe_put (h : fs.resolve workingDirectory p = .ok l) (habsent : fs.get? l = none)
    (e : Entry) : (fs.put l e).probe workingDirectory p = .ok (some e) := by
  have hl : l ≠ [] := by
    rintro rfl
    exact absurd habsent (by simp [get?])
  have hresolve := (Keeps.put habsent e).resolve h
  rw [probe, entryAt, hresolve]
  simp only [get?_put fs hl, if_true]

/-- A file that is put where nothing was is all that makes a difference. -/
theorem differAt_put (habsent : fs.get? l = none) (e : Entry) :
    DifferAt l none (some e) fs (fs.put l e) := by
  have hl : l ≠ [] := by
    rintro rfl
    exact absurd habsent (by simp [get?])
  exact ⟨(AgreeOff.refl l fs).put_right e, habsent, by rw [get?_put fs hl, if_pos rfl]⟩

end FileSystem

namespace Host

/-- The host with an environment file at a location. -/
def withEnvFile (l : Location) (bytes : List UInt8) (host : Host) : Host :=
  { host with files := host.files.put l (.file bytes) }

/-- The host with assignments in its environment. -/
def withVariables (assignments : List (Text × Text)) (host : Host) : Host :=
  { host with environment := host.environment.setAll assignments }

/-- Loading the settings on a host with an environment file sets what the file assigns. -/
theorem loadConfigWith_withEnvFile {host : Host} {l : Location} {bytes : List UInt8}
    {assignments : List (Text × Text)}
    (hplace : host.files.resolve host.workingDirectory envFile = .ok l)
    (habsent : host.files.get? l = none)
    (hgives : EnvFile.Gives bytes host.environment assignments) (o : Overrides) :
    ∃ after, (∀ name, after.get? name = (host.environment.setAll assignments).get? name) ∧
      (host.withEnvFile l bytes).loadConfigWith o =
        (.ok (o.apply (.ofEnvironment after)),
          { host.withEnvFile l bytes with environment := after }) := by
  obtain ⟨t, after, htext, hlines, hload, hafter⟩ := hgives
  refine ⟨after, hafter, ?_⟩
  have hprobe : (host.withEnvFile l bytes).files.probe
      (host.withEnvFile l bytes).workingDirectory envFile = .ok (some (.file bytes)) :=
    probe_put hplace habsent _
  have hset : EnvFile.load t (host.withEnvFile l bytes).environment = (.ok (), after) := hload
  rw [loadConfigWith, loadConfig, loadEnvFile, hprobe]
  simp only [htext, hset, envFileRecords, hlines]
  rfl

end Host

namespace Run

/-- The assignments to variables that a run only looks up after it has loaded the environment
file. -/
def lateAssignments (assignments : List (Text × Text)) : List (Text × Text) :=
  assignments.filter fun v ↦ v.1 ∉ Tuning.earlySources

theorem get?_setAll_lateAssignments_of_early (assignments : List (Text × Text)) (env : Environment)
    {name : Text} (h : name ∈ Tuning.earlySources) :
    (env.setAll (lateAssignments assignments)).get? name = env.get? name := by
  rw [lateAssignments,
    Environment.get?_setAll_filter fun name ↦ decide (name ∉ Tuning.earlySources),
    if_neg (by simpa using h)]

theorem get?_setAll_lateAssignments_of_late (assignments : List (Text × Text)) (env : Environment)
    {name : Text} (h : name ∉ Tuning.earlySources) :
    (env.setAll (lateAssignments assignments)).get? name = (env.setAll assignments).get? name := by
  rw [lateAssignments,
    Environment.get?_setAll_filter fun name ↦ decide (name ∉ Tuning.earlySources),
    if_pos (by simpa using h)]

section

variable {env after : Environment} {assignments : List (Text × Text)}

/-- What is looked up early does not change with late assignments, up to the suffix of output files,
which a run looks up again. -/
theorem fromSettings_lateAssignments (env : Environment) (assignments : List (Text × Text))
    (entry : EntryPoint) (a : Arguments) :
    fromSettings entry a (Tuning.ofEnvironment env) =
      fromSettings entry a (Tuning.ofEnvironment (env.setAll (lateAssignments assignments))) := by
  have hearly : ∀ name ∈ Tuning.earlySources,
      (env.setAll (lateAssignments assignments)).get? name = env.get? name :=
    fun _ ↦ get?_setAll_lateAssignments_of_early assignments env
  rw [Tuning.ofEnvironment_eq_of_early hearly]
  rfl

variable (hafter : ∀ name, after.get? name = (env.setAll assignments).get? name)
include hafter

/-- The settings that are looked up late do not change with early assignments. -/
theorem config_lateAssignments :
    Config.ofEnvironment after = .ofEnvironment (env.setAll (lateAssignments assignments)) := by
  refine Config.ofEnvironment_congr fun name hname ↦ ?_
  have hlate : name ∉ Tuning.earlySources := by
    revert name
    decide
  rw [hafter, get?_setAll_lateAssignments_of_late assignments env hlate]

theorem outputSuffix_lateAssignments :
    (Tuning.ofEnvironment after).outputSuffix =
      (Tuning.ofEnvironment (env.setAll (lateAssignments assignments))).outputSuffix := by
  have hlate : Tuning.family ++ "OUTPUT_FILE_SUFFIX" ∉ Tuning.earlySources := by decide
  simp only [Tuning.ofEnvironment, Environment.getD]
  rw [hafter, get?_setAll_lateAssignments_of_late assignments env hlate]

end

section

variable {words : List Text} {host : Host} {l : Location} {bytes : List UInt8}
  {assignments : List (Text × Text)}
  (hfresh : host.routing = {})
  (hplace : host.files.resolve host.workingDirectory Host.envFile = .ok l)
  (habsent : host.files.get? l = none)
  (hgives : EnvFile.Gives bytes host.environment assignments)
  (hreach : StayOff l host.workingDirectory
    (reach words (host.withVariables (lateAssignments assignments))))
include hfresh hplace habsent hgives hreach

/-- The two runs step by step. -/
theorem sameOutcome_steps (entry : EntryPoint) :
    Host.SameOutcome ⟨l, none, some (.file bytes), host.workingDirectory, fun _ _ ↦ True⟩
      (steps entry words (host.withVariables (lateAssignments assignments)))
      (steps entry words (host.withEnvFile l bytes)) := by
  have hchannels : ∀ k, .file k ∈ host.routing.channels → k ≠ l := by simp [hfresh]
  rw [steps_eq_fromSettings]
  refine .bind (sameOutcome_readArguments (.mk rfl (differAt_put habsent _) trivial hchannels) entry
    words) fun a after after' ha ha' _ ↦ ?_
  obtain ⟨hread, rfl⟩ := readArguments_eq_ok ha
  obtain ⟨-, rfl⟩ := readArguments_eq_ok ha'
  -- what each run loads
  have hload := (host.withVariables (lateAssignments assignments)).loadConfigWith_of_absent
    (probe_of_absent hplace habsent) a.overrides
  obtain ⟨env, henv, hload'⟩ :=
    Host.loadConfigWith_withEnvFile hplace habsent hgives a.overrides
  rw [config_lateAssignments henv] at hload'
  rw [reach, hread] at hreach
  simp only [hload] at hreach
  have hloaded : Host.Alike ⟨l, none, some (.file bytes), host.workingDirectory,
      SuffixOf (host.environment.setAll (lateAssignments assignments))⟩
      (host.withVariables (lateAssignments assignments))
      { host.withEnvFile l bytes with environment := env } :=
    .mk rfl (differAt_put habsent _) ⟨rfl, outputSuffix_lateAssignments henv⟩ hchannels
  have hrest := sameOutcome_fromConfigure entry hload hload' hloaded rfl hreach
  rw [Action.bind_apply, getThe_apply, Action.bind_apply, getThe_apply]
  show Host.SameOutcome _ _
    ((configure a >>= fromSettings entry a (Tuning.ofEnvironment host.environment)) _)
  rw [fromSettings_lateAssignments host.environment assignments]
  exact hrest.forget

/-- **An environment file does what variables do, if these are looked up late.** Three variables are
looked up before the environment file is loaded. If the file assigns none of them, a run with the
file and a run with the assignments in the environment have the same result. If it does, the
assignments to the three are without effect: the run with the file has the result of one with the
other assignments. This holds of runs that stay away from the place of the file. -/
theorem execute_withEnvFile {entry : EntryPoint} :
    SameResult l none (some (.file bytes))
        (execute entry words (host.withVariables (lateAssignments assignments)))
        (execute entry words (host.withEnvFile l bytes)) ∧
      ((∀ v ∈ assignments, v.1 ∉ Tuning.earlySources) →
        SameResult l none (some (.file bytes))
          (execute entry words (host.withVariables assignments))
          (execute entry words (host.withEnvFile l bytes))) := by
  have hlate : SameResult l none (some (.file bytes))
      (execute entry words (host.withVariables (lateAssignments assignments)))
      (execute entry words (host.withEnvFile l bytes)) := by
    have hsteps := sameOutcome_steps hfresh hplace habsent hgives hreach entry
    have hvariables := (host.withVariables (lateAssignments assignments)).begin_of_fresh hfresh
      (activity entry)
    have hfile := (host.withEnvFile l bytes).begin_of_fresh hfresh (activity entry)
    rw [← hvariables, ← hfile] at hsteps
    exact sameResult_execute hsteps
  refine ⟨hlate, fun hnone ↦ ?_⟩
  have hall : lateAssignments assignments = assignments :=
    List.filter_eq_self.2 fun v hv ↦ by simpa using hnone v hv
  rwa [hall] at hlate

end

/-- A host with a signature file of one function. -/
def oneFunction : Host :=
  .untouched [(["s.json"], .file (Host.bytesOf "[\x7b\"name\":\"f\"\x7d]"))] []

/-- The path of the signature file can be given either way. -/
theorem execute_withEnvFile_signatureFile :
    SameResult [".env"] none (some (.file (Host.bytesOf "SIGNATURE_FILE_PATH=s.json\n")))
      (execute {} [] (oneFunction.withVariables [("SIGNATURE_FILE_PATH", "s.json")]))
      (execute {} []
        (oneFunction.withEnvFile [".env"] (Host.bytesOf "SIGNATURE_FILE_PATH=s.json\n"))) := by
  have hgives : EnvFile.Gives (Host.bytesOf "SIGNATURE_FILE_PATH=s.json\n") oneFunction.environment
      [("SIGNATURE_FILE_PATH", "s.json")] :=
    ⟨"SIGNATURE_FILE_PATH=s.json\n", { pairs := [("SIGNATURE_FILE_PATH", "s.json")] },
      by decide +kernel, by decide +kernel, by decide +kernel, fun _ ↦ rfl⟩
  refine (execute_withEnvFile rfl (by decide +kernel) (by decide +kernel) hgives ?_).2 (by decide)
  decide +kernel

/-- The first part of the log file's name cannot be given by the environment file. -/
theorem execute_withEnvFile_logName :
    EnvFile.Gives (Host.bytesOf "PYSHARP_LOG_FILE_PREFIX=run\n") oneFunction.environment
        [("PYSHARP_LOG_FILE_PREFIX", "run")] ∧
      ¬ SameResult [".env"] none (some (.file (Host.bytesOf "PYSHARP_LOG_FILE_PREFIX=run\n")))
        (execute {} ["s.json"] (oneFunction.withVariables [("PYSHARP_LOG_FILE_PREFIX", "run")]))
        (execute {} ["s.json"]
          (oneFunction.withEnvFile [".env"] (Host.bytesOf "PYSHARP_LOG_FILE_PREFIX=run\n"))) := by
  refine ⟨⟨"PYSHARP_LOG_FILE_PREFIX=run\n", { pairs := [("PYSHARP_LOG_FILE_PREFIX", "run")] },
    by decide +kernel, by decide +kernel, by decide +kernel, fun _ ↦ rfl⟩, fun h ↦ ?_⟩
  have hfiles := h.files.agreeOff ["logs", "run_20240102_030405.log"] (by decide)
  have hvariables : ((execute {} ["s.json"] (oneFunction.withVariables
      [("PYSHARP_LOG_FILE_PREFIX", "run")])).2.files.get?
        ["logs", "run_20240102_030405.log"]).isSome = true := by decide +kernel
  have hfile : ((execute {} ["s.json"] (oneFunction.withEnvFile [".env"]
      (Host.bytesOf "PYSHARP_LOG_FILE_PREFIX=run\n"))).2.files.get?
        ["logs", "run_20240102_030405.log"]).isSome = false := by decide +kernel
  rw [hfiles, hfile] at hvariables
  exact Bool.false_ne_true hvariables

end Run

end SignatureBridge
