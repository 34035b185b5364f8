import SignatureBridge.Host.Configuration
import SignatureBridge.Proofs.Host.Recording
import SignatureBridge.Proofs.Outcome
import SignatureBridge.Proofs.Settings.EnvFileLoading

/-!
# Which source of a setting comes first

A program sets and unsets variables, changes files and loads settings, in any order and any number
of times (`SettingStep`). Loading writes what an environment file gives into the environment, so an
earlier load decides what a later one finds. What keeps this in order is that a variable that is set
is changed by no load (`get?_perform_of_some`): the environment comes before the file, the file
before the fixed value, and what came first stays.

`settings_of_steps` says so of all runs of steps. The settings that a load returns are told by
`Config.ComesFrom` from a table of variables, and those with arguments in place by
`Overrides.Replaces`.
-/

namespace SignatureBridge

/-! ### Settings and their sources -/

/-- The value that comes first for a name: the one of the environment, or else the one that an
environment file gives. -/
def EnvFile.firstValue? (t : Text) (env : Environment) (name : Text) : Option Text :=
  (env.get? name).or (given? t env name)

/-- Settings come from the values of variables, or else from fixed ones. -/
structure Config.ComesFrom (c : Config) (value? : Text → Option Text) : Prop where
  signatureFile : c.signatureFile = .ofText ((value? "SIGNATURE_FILE_PATH").getD "signatures.json")
  outputDir : c.outputDir = .ofText ((value? "OUTPUT_DIR").getD "output")
  logDir : c.logDir = .ofText ((value? "LOG_DIR").getD "logs")
  verbose : c.verbose = true ↔
    ((value? "VERBOSE").getD "false").lower ∈ (["true", "1", "yes"] : List Text)

theorem Config.comesFrom_ofEnvironment {env : Environment} {value? : Text → Option Text}
    (h : ∀ name, env.get? name = value? name) : (ofEnvironment env).ComesFrom value? where
  signatureFile := by rw [← h]; rfl
  outputDir := by rw [← h]; rfl
  logDir := by rw [← h]; rfl
  verbose := by
    rw [← h]
    exact List.contains_iff_mem

/-- A setting is the given one, or else the old one. -/
def IsReplaced {α : Type} (given : Option α) (old new : α) : Prop :=
  (∀ a, given = some a → new = a) ∧ (given = none → new = old)

theorem isReplaced_getD {α : Type} (given : Option α) (old : α) :
    IsReplaced given old (given.getD old) := by
  cases given with
  | none => exact ⟨nofun, fun _ ↦ rfl⟩
  | some a => exact ⟨fun b h ↦ Option.some.inj h, nofun⟩

/-- Exactly the given settings are replaced. -/
structure Overrides.Replaces (o : Overrides) (c c' : Config) : Prop where
  signatureFile : IsReplaced o.signatureFile c.signatureFile c'.signatureFile
  outputDir : IsReplaced o.outputDir c.outputDir c'.outputDir
  verbose : IsReplaced o.verbose c.verbose c'.verbose
  logDir : IsReplaced o.logDir c.logDir c'.logDir

theorem Overrides.replaces_apply (o : Overrides) (c : Config) : o.Replaces c (o.apply c) where
  signatureFile := isReplaced_getD _ _
  outputDir := isReplaced_getD _ _
  verbose := isReplaced_getD _ _
  logDir := isReplaced_getD _ _

namespace Host

/-! ### A load -/

/-- The text of the environment file at a path, which is empty if there is none. -/
def envText (p : FilePath) (host : Host) : Except Failure Text :=
  match host.files.probe host.workingDirectory p with
  | .error cause => .error (.file cause)
  | .ok none => .ok []
  | .ok (some entry) => (envFileText entry).mapError .undecodable

variable {host : Host} {p : FilePath} {t : Text}

/-- An environment file that cannot be read stops the loading before anything is changed. -/
theorem loadConfig_of_envText_error {cause : Failure} (h : host.envText p = .error cause) :
    host.loadConfig p = (.error cause, host) := by
  rw [envText] at h
  rw [loadConfig, loadEnvFile]
  rcases hprobe : host.files.probe host.workingDirectory p with e | - | entry
  · rw [hprobe] at h
    cases h
    rfl
  · rw [hprobe] at h
    exact absurd h (by simp)
  · rw [hprobe] at h
    dsimp only at h ⊢
    rcases htext : envFileText entry with e | t
    · rw [htext] at h
      cases h
      rfl
    · rw [htext] at h
      exact absurd h (by simp [Except.mapError])

/-- Loading settings loads the text of the environment file and reports what cannot be read of
it. -/
theorem loadConfig_of_envText (h : host.envText p = .ok t) :
    host.loadConfig p =
      (((EnvFile.load t host.environment).1.mapError Failure.environment).map fun () ↦
          .ofEnvironment (EnvFile.load t host.environment).2,
        { host.logAll (envFileRecords t) with
          environment := (EnvFile.load t host.environment).2 }) := by
  rw [envText] at h
  rw [loadConfig, loadEnvFile]
  rcases hprobe : host.files.probe host.workingDirectory p with e | - | entry
  · rw [hprobe] at h
    exact absurd h (by simp)
  · rw [hprobe] at h
    obtain rfl : [] = t := Except.ok.inj h
    rfl
  · rw [hprobe] at h
    dsimp only at h ⊢
    rcases htext : envFileText entry with e | t'
    · rw [htext] at h
      exact absurd h (by simp [Except.mapError])
    · rw [htext] at h
      obtain rfl : t' = t := Except.ok.inj h
      rfl

/-- **When a load returns settings**: the file can be read, and the environment takes what is new to
it. The settings are those of the environment after that. -/
theorem loadConfig_eq_ok_iff {c : Config} :
    (host.loadConfig p).1 = .ok c ↔ ∃ t, host.envText p = .ok t ∧
      EnvFile.Loads t host.environment ∧
        c = .ofEnvironment (EnvFile.load t host.environment).2 := by
  rcases htext : host.envText p with cause | t
  · rw [loadConfig_of_envText_error htext]
    simp
  · rw [loadConfig_of_envText htext]
    simp only [Except.ok.injEq, exists_eq_left', ← EnvFile.load_eq_ok_iff]
    rcases (EnvFile.load t host.environment).1 with cause | ⟨⟩
    · simp [Except.map, Except.mapError]
    · simp [Except.map, Except.mapError, eq_comm]

/-- Where the file gives nothing new, a load leaves the environment as it is. -/
theorem loadConfig_of_names (htext : host.envText p = .ok t)
    (hset : ∀ name ∈ EnvFile.names t, (host.environment.get? name).isSome = true) :
    (host.loadConfig p).1 = .ok (.ofEnvironment host.environment) ∧
      (host.loadConfig p).2.environment = host.environment := by
  rw [loadConfig_of_envText htext, EnvFile.load_eq_self hset]
  exact ⟨rfl, rfl⟩

/-- A load changes no variable that is set, also if it fails. -/
theorem get?_loadConfig_of_some {name value : Text}
    (h : host.environment.get? name = some value) (p : FilePath) :
    (host.loadConfig p).2.environment.get? name = some value := by
  rcases htext : host.envText p with cause | t
  · rw [loadConfig_of_envText_error htext]
    exact h
  · rw [loadConfig_of_envText htext]
    exact EnvFile.get?_load_of_some h

/-- Where no log file is in the way, a load leaves the environment file as it is. -/
theorem envText_loadConfig (hlogs : host.LogsOff p) (htext : host.envText p = .ok t) :
    (host.loadConfig p).2.envText p = .ok t := by
  have hsame := host.sameSetting_logAll (envFileRecords t)
  rw [loadConfig_of_envText htext, ← htext, envText, envText]
  dsimp only
  rw [hsame.workingDirectory, probe_logAll _ hlogs]

/-! ### Steps -/

/-- A step of a program that uses settings. -/
inductive SettingStep where
  | assign (name value : Text)
  | unset (name : Text)
  /-- Files change in some way, environment files among them. -/
  | edit (files : FileSystem)
  /-- Settings are loaded with an environment file. -/
  | load (p : FilePath)
  /-- Settings are loaded, and some are given explicitly. -/
  | loadWith (o : Overrides)

namespace SettingStep

/-- Whether a step sets or unsets a variable by its name. -/
def isAbout (name : Text) : SettingStep → Bool
  | assign other _ | unset other => other = name
  | _ => false

/-- The host after a step. An assignment that the environment does not take changes nothing. -/
def perform (host : Host) : SettingStep → Host
  | assign name value =>
    match host.environment.set? name value with
    | .ok environment => { host with environment }
    | .error _ => host
  | unset name => { host with environment := host.environment.unset name }
  | edit files => { host with files }
  | load p => (host.loadConfig p).2
  | loadWith o => (host.loadConfigWith o).2

end SettingStep

/-- The host after steps. -/
def afterSteps (host : Host) (steps : List SettingStep) : Host :=
  steps.foldl SettingStep.perform host

/-- **A step changes a variable that is set only if it is about it.** -/
theorem get?_perform_of_some {step : SettingStep} {name value : Text}
    (h : host.environment.get? name = some value) (hstep : step.isAbout name = false) :
    (step.perform host).environment.get? name = some value := by
  cases step with
  | assign other v =>
    have hne : name ≠ other := fun heq ↦ by simp [SettingStep.isAbout, heq] at hstep
    rw [SettingStep.perform]
    by_cases hadmits : Environment.Admits other v
    · rw [Environment.set?_of_admits hadmits]
      exact (Environment.get?_set _ _ _ _).trans (by rw [if_neg hne, h])
    · obtain ⟨cause, hset⟩ := Environment.set?_of_not_admits hadmits host.environment
      rw [hset]
      exact h
  | unset other =>
    have hne : name ≠ other := fun heq ↦ by simp [SettingStep.isAbout, heq] at hstep
    exact (Environment.get?_unset _ _ _).trans (by rw [if_neg hne, h])
  | edit files => exact h
  | load p => exact get?_loadConfig_of_some h p
  | loadWith o => exact get?_loadConfig_of_some h envFile

theorem get?_afterSteps_of_some {steps : List SettingStep} {name value : Text} :
    ∀ {host : Host}, host.environment.get? name = some value →
      (∀ step ∈ steps, step.isAbout name = false) →
        (host.afterSteps steps).environment.get? name = some value := by
  induction steps with
  | nil => exact fun h _ ↦ h
  | cons step steps ih =>
    exact fun h hsteps ↦ ih (get?_perform_of_some h (hsteps step List.mem_cons_self))
      fun other hother ↦ hsteps other (List.mem_cons_of_mem step hother)

/-! ### Loads after steps -/

/-- A load returns settings and leaves the environment as it is. -/
def Repeats (host : Host) (p : FilePath) (c : Config) : Prop :=
  (host.loadConfig p).1 = .ok c ∧ (host.loadConfig p).2.environment = host.environment

/-- What a load that returns settings makes of the text of the environment file. -/
structure Loaded (host : Host) (p : FilePath) (t : Text) (c : Config) : Prop where
  config : c.ComesFrom (EnvFile.firstValue? t host.environment)
  environment : ∀ name, (host.loadConfig p).2.environment.get? name =
    EnvFile.firstValue? t host.environment name
  /-- Loading again at once changes nothing, unless a log is written into the environment file. -/
  atOnce : host.LogsOff p → (host.loadConfig p).2.Repeats p c
  /-- Neither does loading again after a change of files, if the environment file then gives values
  to no names but those that it gave values to and those that were set. -/
  again : ∀ files t', { (host.loadConfig p).2 with files }.envText p = .ok t' →
    (∀ name ∈ EnvFile.names t',
      name ∈ EnvFile.names t ∨ (host.environment.get? name).isSome = true) →
    { (host.loadConfig p).2 with files }.Repeats p c

theorem loaded_of_loadConfig {c : Config} (htext : host.envText p = .ok t)
    (hload : (host.loadConfig p).1 = .ok c) : host.Loaded p t c := by
  obtain ⟨t', htext', hloads, rfl⟩ := loadConfig_eq_ok_iff.1 hload
  obtain rfl : t = t' := Except.ok.inj (htext.symm.trans htext')
  have hget := EnvFile.get?_load (EnvFile.load_eq_ok_iff.2 hloads)
  have hafter : (host.loadConfig p).2.environment = (EnvFile.load t host.environment).2 := by
    rw [loadConfig_of_envText htext]
  have hagain : ∀ files t', { (host.loadConfig p).2 with files }.envText p = .ok t' →
      (∀ name ∈ EnvFile.names t',
        name ∈ EnvFile.names t ∨ (host.environment.get? name).isSome = true) →
      { (host.loadConfig p).2 with files }.Repeats p
        (.ofEnvironment (EnvFile.load t host.environment).2) := by
    intro files t' htext' hnames
    -- every name that the file now gives a value to is set
    have hset : ∀ name ∈ EnvFile.names t',
        ((host.loadConfig p).2.environment.get? name).isSome = true := by
      intro name hname
      rw [hafter, hget, Option.isSome_or, Bool.or_eq_true, ← EnvFile.mem_names_iff]
      exact (hnames name hname).symm
    rw [← hafter]
    exact loadConfig_of_names htext' hset
  exact {
    config := Config.comesFrom_ofEnvironment hget
    environment := fun name ↦ by rw [hafter, hget, EnvFile.firstValue?]
    atOnce := fun hlogs ↦ hagain _ t (envText_loadConfig hlogs htext) fun _ ↦ .inl
    again := hagain }

/-- **The environment comes first, then the environment file, then the fixed value**, and explicit
arguments come before all of them, after any steps of a program. A variable that is set keeps its
value until a step sets or unsets it by its name. A load returns settings exactly if the environment
file can be read and the environment takes what is new to it; each setting then has the value that
its variable had before, or else the one of the file, or else the fixed one. Loading once more, at
once or after the file has changed in what it gives to names that it gave values to, returns the
same settings and leaves the environment as it is. Arguments replace exactly the settings that they
are given for. -/
theorem settings_of_steps (host : Host) (steps : List SettingStep) :
    let before := host.afterSteps steps
    (∀ more name value, before.environment.get? name = some value →
      (∀ step ∈ more, SettingStep.isAbout name step = false) →
        (before.afterSteps more).environment.get? name = some value) ∧
    (∀ p, (∃ c, (before.loadConfig p).1 = .ok c) ↔
      ∃ t, before.envText p = .ok t ∧ EnvFile.Loads t before.environment) ∧
    (∀ p t c, before.envText p = .ok t → (before.loadConfig p).1 = .ok c →
      before.Loaded p t c) ∧
    ∀ o, (before.loadConfigWith o).2 = (before.loadConfig envFile).2 ∧
      (∀ cause, (before.loadConfigWith o).1 = .error cause ↔
        (before.loadConfig envFile).1 = .error cause) ∧
      ∀ c, (before.loadConfig envFile).1 = .ok c →
        ∃ c', (before.loadConfigWith o).1 = .ok c' ∧ o.Replaces c c' := by
  intro before
  refine ⟨fun more name value ↦ get?_afterSteps_of_some, fun p ↦ ?_,
    fun p t c htext hload ↦ loaded_of_loadConfig htext hload,
    fun o ↦ ⟨rfl, fun cause ↦ Except.map_eq_error_iff, fun c hload ↦ ?_⟩⟩
  · simp only [loadConfig_eq_ok_iff]
    constructor
    · rintro ⟨-, t, htext, hloads, -⟩
      exact ⟨t, htext, hloads⟩
    · rintro ⟨t, htext, hloads⟩
      exact ⟨_, t, htext, hloads, rfl⟩
  · exact ⟨o.apply c, Except.map_eq_ok_iff.2 ⟨c, hload, rfl⟩, o.replaces_apply c⟩

/-- A host with an environment file and a variable that the file does not name. -/
def envSample (content : String) : Host :=
  untouched [([".env"], .file (bytesOf content))] [("LOG_DIR", "l")]

/-- After an assignment the file gives what is missing. Another value in the file comes too late,
and an argument replaces what the file gave. -/
theorem settings_after_assignment :
    let before := (envSample "OUTPUT_DIR=a\nVERBOSE=Yes\n").afterSteps [.assign "OUTPUT_DIR" "b"]
    ∃ c c', (before.loadConfig envFile).1 = .ok c ∧
      c.outputDir = .ofText "b" ∧ c.verbose = true ∧ c.logDir = .ofText "l" ∧
      c.signatureFile = .ofText "signatures.json" ∧
      (before.loadConfig envFile).2.Repeats envFile c ∧
      Repeats { (before.loadConfig envFile).2 with files := (envSample "VERBOSE=no\n").files }
        envFile c ∧
      (before.loadConfigWith { verbose := some false }).1 = .ok c' ∧
      c'.verbose = false ∧ c'.outputDir = c.outputDir := by
  intro before
  obtain ⟨-, -, hloaded, harguments⟩ := settings_of_steps
    (envSample "OUTPUT_DIR=a\nVERBOSE=Yes\n") [.assign "OUTPUT_DIR" "b"]
  have htext : before.envText envFile = .ok "OUTPUT_DIR=a\nVERBOSE=Yes\n" :=
    Except.toOption_eq_some_iff.1 (by decide +kernel)
  obtain ⟨c, hc⟩ := Option.isSome_iff_exists.1
    (show (before.loadConfig envFile).1.toOption.isSome = true by decide +kernel)
  rw [Except.toOption_eq_some_iff] at hc
  have hsettings := hloaded envFile _ c htext hc
  obtain ⟨-, -, hreplaces⟩ := harguments { verbose := some false }
  obtain ⟨c', hc', hreplaced⟩ := hreplaces c hc
  refine ⟨c, c', hc, ?_, ?_, ?_, ?_, ?_, ?_, hc', hreplaced.verbose.1 _ rfl,
    hreplaced.outputDir.2 rfl⟩
  · exact hsettings.config.outputDir
  · exact hsettings.config.verbose.2 (by decide +kernel)
  · exact hsettings.config.logDir
  · exact hsettings.config.signatureFile
  · exact hsettings.atOnce fun _ h ↦ absurd h List.not_mem_nil
  · exact hsettings.again _ "VERBOSE=no\n" (Except.toOption_eq_some_iff.1 (by decide +kernel))
      (by decide +kernel)

end Host

end SignatureBridge
