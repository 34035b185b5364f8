import SignatureBridge.Proofs.Command.Running

/-!
# The steps of a run as functions of the host

A step of a run is composed of smaller ones. Here the steps are taken together: what a step gives on
a host, and the host that it leaves, in one equation each. Proofs about a run use these equations
and need not open the steps.
-/

namespace SignatureBridge

open Journal

namespace Host

/-- On a fresh host the record of the start is not kept. -/
theorem begin_of_fresh (host : Host) (h : host.routing = {}) (a : Activity) :
    host.begin a = host := by
  rw [begin, log, h]
  rfl

/-- Without an environment file the settings are those of the environment. -/
theorem loadConfigWith_of_absent (host : Host)
    (h : host.files.probe host.workingDirectory envFile = .ok none) (o : Overrides) :
    host.loadConfigWith o = (.ok (o.apply (.ofEnvironment host.environment)), host) := by
  rw [loadConfigWith, loadConfig, loadEnvFile, h]
  rfl

end Host

namespace Run

theorem getThe_apply (host : Host) : (getThe Host : Action Host) host = (.ok host, host) := rfl

theorem log_apply (r : Record) (host : Host) : log r host = (.ok (), host.log r) := rfl

theorem attempt_apply {ε α : Type} (asFailure : ε → Failure) (f : Host → Except ε α × Host)
    (host : Host) :
    attempt asFailure f host =
      ((f host).1.mapError fun cause ↦ Ending.raised (asFailure cause), (f host).2) := by
  rw [attempt, Action.bind_apply, getThe_apply]
  dsimp only
  rcases f host with ⟨cause | a, after⟩ <;> rfl

theorem readArguments_eq_ok {entry : EntryPoint} {words : List Text} {a : Arguments}
    {host after : Host} (h : readArguments entry words host = (.ok a, after)) :
    Arguments.read words = .ok a ∧ host = after := by
  rw [readArguments] at h
  rcases hread : Arguments.read words with (- | cause) | b
  · rw [hread] at h
    obtain ⟨_, _, _, hthrow⟩ := Action.bind_eq_ok_iff.1 h
    cases hthrow
  · rw [hread] at h
    obtain ⟨_, _, _, hthrow⟩ := Action.bind_eq_ok_iff.1 h
    cases hthrow
  · rw [hread] at h
    cases h
    exact ⟨rfl, rfl⟩

theorem configure_apply (a : Arguments) (host : Host) :
    configure a host =
      match host.configure a.overrides with
      | (.ok c, after) => (.ok c, after)
      | (.error cause, after) =>
        if cause.isInvalid then
          (.error (.exit 1), after.complain ("Configuration error: " ++ cause.message ++ "\n"))
        else (.error (.raised cause), after) := by
  rw [configure, Action.bind_apply, getThe_apply]
  dsimp only
  rcases host.configure a.overrides with ⟨cause | c, after⟩
  · show (if cause.isInvalid then stopWith ("Configuration error: " ++ cause.message ++ "\n") 1
      else throw (Ending.raised cause)) after = _
    dsimp only
    split_ifs <;> rfl
  · rfl

/-- Settings that a run goes on with have been loaded, and checked after that. -/
theorem configure_eq_ok {a : Arguments} {host after : Host} {c : Config}
    (h : configure a host = (.ok c, after)) :
    host.loadConfigWith a.overrides = (.ok c, after) ∧ after.checkConfig c = .ok () := by
  rw [configure_apply, Host.configure] at h
  generalize host.loadConfigWith a.overrides = loaded at h ⊢
  rcases loaded with ⟨cause | d, between⟩
  · dsimp only at h
    split_ifs at h <;> cases h
  · dsimp only at h
    rcases hcheck : between.checkConfig d with cause | ⟨⟩
    · rw [hcheck] at h
      dsimp only [Except.map] at h
      split_ifs at h <;> cases h
    · rw [hcheck] at h
      cases h
      exact ⟨rfl, hcheck⟩

/-- The records of the settings, once logging is started. -/
def settingRecords (origin : Origin) (c : Config) : List Record := [
  ⟨origin, .debug, "Signature file: " ++ c.signatureFile.text⟩,
  ⟨origin, .debug, "Output directory: " ++ c.outputDir.text⟩]

/-- How a run starts logging in a directory. -/
def logOptions (c : Config) (t : Tuning) (directory : FilePath) (host : Host) : Host.LogOptions :=
  { directory, verbose := c.verbose, name := t.logName, moment := host.clock }

theorem startLogging_apply (origin : Origin) (c : Config) (t : Tuning) (host : Host) :
    startLogging origin c t host =
      match c.logDir.path with
      | .error cause => (.error (.raised (.file cause)), host)
      | .ok directory =>
        match host.startLogging (logOptions c t directory host) with
        | (.error cause, after) => (.error (.raised (.file cause)), after)
        | (.ok (), after) => (.ok (), after.logAll (settingRecords origin c)) := by
  simp only [startLogging, Action.bind_apply, attempt_apply, getThe_apply, log_apply, logOptions]
  rcases c.logDir.path with cause | directory
  · rfl
  · dsimp only [Except.mapError]
    generalize host.startLogging _ = started
    rcases started with ⟨cause | _, after⟩ <;> rfl

theorem loadSignatures_apply (origin : Origin) (p : FilePath) (host : Host) :
    loadSignatures origin p host =
      match host.signatures p with
      | .ok loaded => (.ok loaded, (host.loadSignatures p).2)
      | .error cause => (.error (.exit 1), (host.loadSignatures p).2.log
          ⟨origin, .error, "Could not load signatures: " ++ cause.message⟩) := by
  show (match host.signatures p with
    | .ok signatures => (pure signatures : Action (List Signature))
    | .error cause => failWith origin ("Could not load signatures: " ++ cause.message))
      (host.loadSignatures p).2 = _
  cases host.signatures p <;> rfl

theorem ensureOutputDir_eq_ok {c : Config} {host after : Host} {directory : FilePath}
    (h : host.ensureOutputDir c = (.ok directory, after)) :
    c.outputDir.path = .ok directory ∧ ∃ files,
      host.files.ensureDirectories host.workingDirectory directory = (.ok (), files) ∧
        after = { host with files } := by
  rw [Host.ensureOutputDir] at h
  rcases hpath : c.outputDir.path with cause | p
  · rw [hpath] at h
    cases h
  · rw [hpath] at h
    dsimp only at h
    rcases hmake : host.files.ensureDirectories host.workingDirectory p with ⟨cause | ⟨⟩, files⟩
    · rw [hmake] at h
      cases h
    · rw [hmake] at h
      cases h
      exact ⟨rfl, files, hmake, rfl⟩

theorem writeOutput_apply (origin : Origin) (c : Config) (t : Text) (host : Host) :
    writeOutput origin c t host =
      match host.ensureOutputDir c with
      | (.error cause, after) => (.error (.raised (.file cause)), after)
      | (.ok directory, after) =>
        let file := (Tuning.ofEnvironment after.environment).outputFile c.signatureFile directory
        match after.writeFile file t with
        | (.error cause, written) => (.error (.raised cause), written)
        | (.ok (), written) =>
          (.ok (), written.log ⟨origin, .info, "[SUCCESS] Wrote: " ++ file.text⟩) := by
  rw [writeOutput, Action.bind_apply, attempt_apply]
  generalize host.ensureOutputDir c = made
  rcases made with ⟨cause | directory, after⟩
  · rfl
  · dsimp only [Except.mapError]
    rw [Action.bind_apply, getThe_apply]
    dsimp only
    rw [Action.bind_apply, attempt_apply]
    generalize (Tuning.ofEnvironment after.environment).outputFile c.signatureFile directory = file
    generalize after.writeFile file t = outcome
    rcases outcome with ⟨cause | _, written⟩ <;> rfl

end Run

end SignatureBridge
