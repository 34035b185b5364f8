import SignatureBridge.Proofs.Command.Writing

/-!
# Runs that stop before they reflect

A run may end before it reflects anything: the arguments ask for help or cannot be read, the
settings do not hold, logging cannot be started, or there are no signatures to reflect. Here it is
said for each of these how the run ends and what it leaves in the files (`Run.execute_of_stop`).

Nothing happens to the files until the settings have been checked. Then logging makes its directory
and opens its log file, and from there on the run only records (`Run.prepare_of_started`). What that
comes to is `FileSystem.AddsLog`: there are new directories on the way to the directory for logs,
the log file may have more at its end, and everything else is as before. In particular a file that
is not the log file can be read as before (`FileSystem.AddsLog.readFile`).
-/

namespace SignatureBridge

open Journal

/-! ### What a log adds to the files -/

namespace FileSystem

variable {fs between fs' : FileSystem} {workingDirectory l : Location} {p : FilePath}

/-- The locations that a directory and the missing ones above it may be made at. -/
def madeFor (workingDirectory : Location) (directory : FilePath) : List Location :=
  directory.target workingDirectory :: directory.passes workingDirectory

/-- The second file system is the first one with a log: there may be new directories on the way to
the directory for logs, and the log file may be new or have more at its end. -/
def AddsLog (workingDirectory : Location) (directory : FilePath) (l : Location)
    (fs fs' : FileSystem) : Prop :=
  ∀ k, fs'.get? k = fs.get? k ∨
    (k ∈ madeFor workingDirectory directory ∧ fs.get? k = none ∧ fs'.get? k = some .directory) ∨
    (k = l ∧ fs.NoDirectory k ∧ ∃ more, fs'.get? k = some (.file (fs.bytesAt k ++ more)))

namespace AddsLog

variable {directory : FilePath}

theorem of_ensureDirectories (workingDirectory : Location) (directory : FilePath) (l : Location)
    (fs : FileSystem) :
    fs.AddsLog workingDirectory directory l
      (fs.ensureDirectories workingDirectory directory).2 := by
  intro k
  by_cases hk : k ∈ madeFor workingDirectory directory
  · rcases (addsDirectories_ensureDirectories workingDirectory directory fs).1 k with
      hsame | ⟨hnone, hmade⟩
    · exact .inl hsame
    · exact .inr (.inl ⟨hk, hnone, hmade⟩)
  · rw [madeFor, List.mem_cons, not_or] at hk
    exact .inl (get?_ensureDirectories_of_avoids fs ⟨hk.2, hk.1⟩)

theorem congr (h : fs.AddsLog workingDirectory directory l between)
    (hsame : ∀ k, fs'.get? k = between.get? k) : fs.AddsLog workingDirectory directory l fs' := by
  intro k
  rw [hsame]
  exact h k

/-- Opening the log file and adding to it adds a log to the file system in which its directory has
been made. -/
theorem of_appendAt (hplace : (fs.ensureDirectories workingDirectory directory).2.NoDirectory l)
    (hagree : AgreeOff l ((fs.ensureDirectories workingDirectory directory).2.appendAt l []) fs')
    (hgrows : ((fs.ensureDirectories workingDirectory directory).2.appendAt l []).Grows fs') :
    fs.AddsLog workingDirectory directory l fs' := by
  have hadds := (addsDirectories_ensureDirectories workingDirectory directory fs).1
  have hmade := of_ensureDirectories workingDirectory directory l fs
  generalize (fs.ensureDirectories workingDirectory directory).2 = made at *
  intro k
  by_cases hk : k = l
  · subst hk
    have hopened : (made.appendAt k []).get? k = some (.file (made.bytesAt k ++ [])) := by
      rw [appendAt, get?_put made hplace.ne_nil, if_pos rfl]
    obtain ⟨more, hmore⟩ := hgrows k _ hopened
    rw [List.append_nil, hadds.bytesAt] at hmore
    exact .inr (.inr ⟨rfl, fun hdirectory ↦ hplace (hadds.keeps k _ hdirectory), more, hmore⟩)
  · rcases hmade k with hsame | ⟨hmem, hnone, hdirectory⟩ | ⟨hl, -⟩
    · exact .inl (by rw [← hagree k hk, appendAt, get?_put_of_ne made hk, hsame])
    · exact .inr (.inl ⟨hmem, hnone, by
        rw [← hagree k hk, appendAt, get?_put_of_ne made hk, hdirectory]⟩)
    · exact absurd hl hk

/-- A file other than the log file can be read as before. -/
theorem readFile (h : fs.AddsLog workingDirectory directory l fs') {here : Location}
    {bytes : List UInt8} (hread : fs.readFile here p = .ok bytes) (hp : p.target here ≠ l) :
    fs'.readFile here p = .ok bytes := by
  obtain ⟨k, hresolve, hk⟩ := entryAt_eq_ok_iff.1 (readFile_eq_ok hread)
  have hkeeps : ∀ j, fs.get? j = some .directory → fs'.get? j = some .directory := by
    intro j hj
    rcases h j with hsame | ⟨-, hnone, -⟩ | ⟨-, hplace, -⟩
    · rw [hsame, hj]
    · exact absurd (hnone.symm.trans hj) (by simp)
    · exact absurd hj hplace
  have hfile : fs'.get? k = some (.file bytes) := by
    rcases h k with hsame | ⟨-, hnone, -⟩ | ⟨hl, -⟩
    · rw [hsame, hk]
    · exact absurd (hnone.symm.trans hk) (by simp)
    · exact absurd ((resolve_eq_ok hresolve).1.trans hl) hp
  rw [FileSystem.readFile,
    entryAt_eq_ok_iff.2 ⟨k, resolve_of_keeps hkeeps hresolve, hfile⟩]

end AddsLog

end FileSystem

/-! ### Before logging is started -/

namespace Host

theorem loadEnvFile_of_down {host : Host} (h : host.routing.IsDown) (p : FilePath) :
    ∃ environment errors, (host.loadEnvFile p).2 = { host with environment, errors } := by
  rw [loadEnvFile]
  split
  · exact ⟨_, _, rfl⟩
  · exact ⟨_, _, rfl⟩
  · split
    · exact ⟨_, _, rfl⟩
    · rename_i t _
      obtain ⟨errors, hlog⟩ := logAll_of_down (envFileRecords t) h
      dsimp only
      rw [hlog]
      exact ⟨_, errors, rfl⟩

/-- While logging is down, settling the settings changes no more than the environment and the error
stream. -/
theorem configure_of_down {host after : Host} (h : host.routing.IsDown) {o : Overrides}
    {result : Except Failure Config} (hconfigure : host.configure o = (result, after)) :
    after.files = host.files ∧ after.workingDirectory = host.workingDirectory ∧
      after.clock = host.clock ∧ after.routing = host.routing := by
  obtain ⟨environment, errors, hload⟩ := loadEnvFile_of_down h envFile
  have hafter : (host.configure o).2 = (host.loadEnvFile envFile).2 := by
    rw [configure, loadConfigWith, loadConfig]
    rcases host.loadEnvFile envFile with ⟨cause | ⟨⟩, after⟩ <;> rfl
  rw [hconfigure, hload] at hafter
  obtain rfl : after = _ := hafter
  exact ⟨rfl, rfl, rfl, rfl⟩

/-- Where a log file has been opened, recording keeps to it. -/
theorem addsLog_logAll {host opened : Host} {directory : FilePath} {l : Location}
    (hplace : (host.files.ensureDirectories host.workingDirectory directory).2.NoDirectory l)
    (hfiles : opened.files =
      (host.files.ensureDirectories host.workingDirectory directory).2.appendAt l [])
    (hchannels : opened.OnlyLogsTo l) (records : List Record) :
    host.files.AddsLog host.workingDirectory directory l (opened.logAll records).files := by
  refine .of_appendAt hplace ?_ ?_
  · rw [← hfiles]
    exact agreeOff_logAll records hchannels
  · rw [← hfiles]
    exact grows_logAll records opened

/-- When logging has been started, and something was recorded after that, a log has been added. -/
theorem addsLog_of_startLogging {host after : Host} {options : LogOptions}
    (hdown : host.routing.IsDown) (h : host.startLogging options = (.ok (), after))
    (records : List Record) :
    host.files.AddsLog host.workingDirectory options.directory
      ((options.logFile.absolute host.workingDirectory).target [])
      (after.logAll records).files := by
  obtain ⟨files, l, hmake, hopen, hafter⟩ := startLogging_eq_ok hdown.1 h
  obtain ⟨hresolve, hplace⟩ := FileSystem.openForWriting_eq_ok hopen
  obtain rfl : (host.files.ensureDirectories host.workingDirectory options.directory).2 = files :=
    congrArg Prod.snd hmake
  rw [(FileSystem.resolve_eq_ok hresolve).1, hafter, ← logAll_append]
  exact addsLog_logAll hplace rfl (onlyLogsTo_withLog options l host)
    (options.firstRecords ++ records)

end Host

/-! ### Where a run stops -/

/-- Of a help text only the name of the program can hold a surrogate. -/
theorem Usage.hasSurrogate_help {program : Text} (h : program.hasSurrogate = false) :
    (help program).hasSurrogate = false := by
  have hblanks : ∀ n, Text.hasSurrogate (List.replicate n 32) = false := fun n ↦
    Text.hasSurrogate_replicate n (by decide)
  have hlayOut : ∀ {entries : List Text}, (∀ entry ∈ entries, entry.hasSurrogate = false) →
      ∀ indent filled, (layOut indent filled entries).hasSurrogate = false := by
    intro entries
    induction entries with
    | nil => exact fun _ _ _ ↦ rfl
    | cons entry entries ih =>
      intro hentries indent filled
      have hrest := ih fun entry hentry ↦ hentries entry (List.mem_cons_of_mem _ hentry)
      rw [layOut]
      split <;> simp only [Text.hasSurrogate_append, Text.hasSurrogate_ofString,
        hentries entry List.mem_cons_self, hrest, hblanks, Bool.or_false]
  have hentries : ∀ e ∈ CommandLine.Switch.all.map entry, e.hasSurrogate = false := by
    decide +kernel
  have hdetails : (Text.lines details).hasSurrogate = false := by
    rw [Text.lines, details, List.flatMap_map, Text.hasSurrogate_flatMap, List.any_eq_false]
    intro line _
    simp only [Text.hasSurrogate_append, Text.hasSurrogate_ofString, Text.hasSurrogate_lineFeed,
      Bool.or_false, Bool.false_eq_true, not_false_eq_true]
  simp only [help, text, Text.hasSurrogate_append, Text.hasSurrogate_ofString, hdetails, hblanks, h,
    hlayOut hentries, Bool.or_false]

namespace Run

variable {entry : EntryPoint} {words : List Text} {a : Arguments} {host stopped : Host} {e : Ending}

/-- A run stops at its arguments with the exit code for help or for an error in the usage. -/
theorem stops_of_readArguments (h : readArguments entry words host = (.error e, stopped)) :
    stopped.files = host.files ∧ stopped.routing = host.routing ∧
      match Arguments.read words with
      | .error .help => entry.program.hasSurrogate = false → e = .exit 0
      | .error (.error _) => e = .exit 2
      | .ok _ => False := by
  rw [readArguments] at h
  rcases hread : Arguments.read words with (- | cause) | a
  · rw [hread] at h
    dsimp only at h ⊢
    rw [Action.bind_apply, attempt_apply, Host.print] at h
    rcases hsurrogates : Utf8.surrogates? (Usage.help entry.program) with - | cause
    · rw [hsurrogates] at h
      cases h
      exact ⟨rfl, rfl, fun _ ↦ rfl⟩
    · rw [hsurrogates] at h
      cases h
      refine ⟨rfl, rfl, fun hprogram ↦ ?_⟩
      rw [Utf8.surrogates?_eq_none_iff.2 (Usage.hasSurrogate_help hprogram)] at hsurrogates
      cases hsurrogates
  · rw [hread] at h
    cases h
    exact ⟨rfl, rfl, rfl⟩
  · rw [hread] at h
    cases h

/-- Once logging is started, only records lead to a stop, and the exit code is 1. -/
theorem stops_of_started {c : Config} {list : Option Text} {started : Host}
    (h : (loadSignatures entry.origin c.signatureFile >>= selectSignatures entry.origin list)
      started = (.error e, stopped)) :
    e = .exit 1 ∧ ∃ records, stopped = started.logAll records := by
  have hlog : ∀ (host : Host) (records : List Record) (r : Record),
      (host.logAll records).log r = host.logAll (records ++ [r]) :=
    fun host records r ↦ (Host.logAll_append records [r] host).symm
  rw [Action.bind_apply, loadSignatures_apply] at h
  rcases hsignatures : started.signatures c.signatureFile with cause | loaded
  · rw [hsignatures] at h
    cases h
    exact ⟨rfl, _, hlog started _ _⟩
  · rw [hsignatures] at h
    dsimp only at h
    unfold selectSignatures at h
    generalize Batch.selection list loaded = outcome at h
    rcases outcome with unknown | - | ⟨s, rest⟩
    · cases h
      exact ⟨rfl, _, hlog started _ _⟩
    · cases h
      exact ⟨rfl, _, hlog started _ _⟩
    · cases h

/-- **The ways in which a run stops before it reflects.** -/
theorem prepare_eq_error (h : prepare entry words host = (.error e, stopped)) :
    readArguments entry words host = (.error e, stopped) ∨
    ∃ a, Arguments.read words = .ok a ∧
      (configure a host = (.error e, stopped) ∨
      ∃ c between, configure a host = (.ok c, between) ∧
        (startLogging entry.origin c (.ofEnvironment host.environment) between =
          (.error e, stopped) ∨
        ∃ started, startLogging entry.origin c (.ofEnvironment host.environment) between =
            (.ok (), started) ∧
          e = .exit 1 ∧ ∃ records, stopped = started.logAll records)) := by
  rw [prepare] at h
  rcases Action.bind_eq_error h with hread | ⟨a, _, hread, h⟩
  · exact .inl hread
  · obtain ⟨hwords, rfl⟩ := readArguments_eq_ok hread
    refine .inr ⟨a, hwords, ?_⟩
    rw [Action.bind_apply, getThe_apply] at h
    rcases Action.bind_eq_error h with hconfigure | ⟨c, between, hconfigure, h⟩
    · exact .inl hconfigure
    · refine .inr ⟨c, between, hconfigure, ?_⟩
      rcases Action.bind_eq_error h with hstart | ⟨_, started, hstart, h⟩
      · exact .inl hstart
      · refine .inr ⟨started, hstart, ?_⟩
        rw [← bind_assoc] at h
        rcases Action.bind_eq_error h with hstops | ⟨_, _, _, hpure⟩
        · exact stops_of_started hstops
        · cases hpure

/-- Settings that do not hold end the run, and nothing has happened to the files. -/
theorem stops_of_configure (hdown : host.routing.IsDown)
    (h : configure a host = (.error e, stopped)) :
    stopped.files = host.files ∧ stopped.routing = host.routing ∧
      ∃ cause, (host.configure a.overrides).1 = .error cause ∧
        e = if cause.isInvalid then .exit 1 else .raised cause := by
  rw [configure_apply] at h
  rcases hconfigure : host.configure a.overrides with ⟨cause | c, after⟩
  · obtain ⟨hfiles, -, -, hrouting⟩ := Host.configure_of_down hdown hconfigure
    rw [hconfigure] at h
    dsimp only at h
    split_ifs at h with hinvalid
    · cases h
      exact ⟨hfiles, hrouting, cause, rfl, (if_pos hinvalid).symm⟩
    · cases h
      exact ⟨hfiles, hrouting, cause, rfl, (if_neg hinvalid).symm⟩
  · rw [hconfigure] at h
    cases h

/-- After the settings, a run stops where logging cannot be started, or with exit code 1. In any
case a log is all that has been added to the files, also after more records if there was a
failure. -/
theorem stops_of_logging {origin : Origin} {c : Config} {t : Tuning} {directory : FilePath}
    {between : Host} (hdown : between.routing.IsDown) (hlogDir : c.logDir.path = .ok directory)
    (h : startLogging origin c t between = (.error e, stopped) ∨
      ∃ started, startLogging origin c t between = (.ok (), started) ∧ e = .exit 1 ∧
        ∃ records, stopped = started.logAll records) (more : List Record) :
    e = (match (between.startLogging (logOptions c t directory between)).1 with
      | .ok () => .exit 1
      | .error cause => .raised (.file cause)) ∧
    between.files.AddsLog between.workingDirectory directory
      (((logOptions c t directory between).logFile.absolute between.workingDirectory).target [])
      (stopped.logAll more).files := by
  rw [startLogging_apply, hlogDir] at h
  dsimp only at h
  rcases hstart : between.startLogging (logOptions c t directory between) with ⟨cause | ⟨⟩, started⟩
  · rw [hstart] at h
    rcases h with hstop | ⟨_, hgoes, -⟩
    · cases hstop
      obtain ⟨hmade, hchannels⟩ := Host.files_of_failed_start hdown hstart
      refine ⟨rfl, .congr ?_ (Host.get?_logAll_of_no_file hchannels more)⟩
      rw [hmade]
      exact .of_ensureDirectories _ _ _ _
    · cases hgoes
  · rw [hstart] at h
    rcases h with hstop | ⟨_, hgoes, rfl, records, rfl⟩
    · cases hstop
    · cases hgoes
      refine ⟨rfl, ?_⟩
      rw [← Host.logAll_append, ← Host.logAll_append]
      exact Host.addsLog_of_startLogging hdown hstart _

/-- **A run that stops before it reflects leaves the files alone, up to its log.** On a fresh host,
let a run end before its signatures are selected. It ends with exit code 0 if it was asked for help
and with 2 after an error in the usage. If the settings are invalid, or logging was started and the
signatures cannot be loaded or selected, the exit code is 1. There is no exit code if the settings
fail for another cause, or if logging cannot be started. Nothing happens to the files unless the
settings could be checked. Then a log is all that has been added, and every file that is not the log
file can be read as before. -/
theorem execute_of_stop (hfresh : host.routing = {})
    (h : prepare entry words (host.begin (activity entry)) = (.error e, stopped)) :
    (execute entry words host).1 = e ∧
    match Arguments.read words with
    | .error .help => (entry.program.hasSurrogate = false → e = .exit 0) ∧
        (execute entry words host).2.files = host.files
    | .error (.error _) => e = .exit 2 ∧ (execute entry words host).2.files = host.files
    | .ok a =>
      match host.configure a.overrides with
      | (.error cause, _) => e = (if cause.isInvalid then .exit 1 else .raised cause) ∧
          (execute entry words host).2.files = host.files
      | (.ok c, between) =>
        match c.logDir.path with
        | .error cause => e = .raised (.file cause) ∧
            (execute entry words host).2.files = host.files
        | .ok directory =>
          let options := logOptions c (.ofEnvironment host.environment) directory host
          let log := (options.logFile.absolute host.workingDirectory).target []
          e = (match (between.startLogging options).1 with
            | .ok () => .exit 1
            | .error cause => .raised (.file cause)) ∧
          host.files.AddsLog host.workingDirectory directory log
            (execute entry words host).2.files ∧
          ∀ p bytes, host.files.readFile host.workingDirectory p = .ok bytes →
            p.target host.workingDirectory ≠ log →
              (execute entry words host).2.files.readFile host.workingDirectory p = .ok bytes := by
  have hdown : host.routing.IsDown := by
    rw [hfresh]
    exact ⟨rfl, rfl, rfl⟩
  -- a failure is recorded after the run has stopped
  obtain ⟨more, hexecute⟩ : ∃ more, execute entry words host = (e, stopped.logAll more) := by
    cases e with
    | exit code => exact ⟨[], execute_of_prepare_eq_exit h⟩
    | raised cause => exact ⟨[_], execute_of_prepare_eq_raised h⟩
  have hkept : stopped.files = host.files → stopped.routing = host.routing →
      (stopped.logAll more).files = host.files := by
    intro hfiles hrouting
    obtain ⟨errors, hmore⟩ := Host.logAll_of_down more (hrouting ▸ hdown)
    rw [hmore, hfiles]
  rw [host.begin_of_fresh hfresh] at h
  rw [hexecute]
  refine ⟨rfl, ?_⟩
  rcases prepare_eq_error h with hread | ⟨a, hread, h⟩
  · obtain ⟨hfiles, hrouting, hcode⟩ := stops_of_readArguments hread
    rcases hwords : Arguments.read words with (- | cause) | a
    · rw [hwords] at hcode
      exact ⟨hcode, hkept hfiles hrouting⟩
    · rw [hwords] at hcode
      exact ⟨hcode, hkept hfiles hrouting⟩
    · rw [hwords] at hcode
      exact hcode.elim
  rw [hread]
  dsimp only
  rcases hconfigure : host.configure a.overrides with ⟨cause | c, between⟩
  · rcases h with hstop | ⟨c, _, hgoes, -⟩
    · obtain ⟨hfiles, hrouting, cause', hcause, hcode⟩ := stops_of_configure hdown hstop
      rw [hconfigure] at hcause
      cases hcause
      exact ⟨hcode, hkept hfiles hrouting⟩
    · rw [configure_apply, hconfigure] at hgoes
      dsimp only at hgoes
      split_ifs at hgoes <;> cases hgoes
  · obtain ⟨hfiles, hdirectory, hclock, hrouting⟩ := Host.configure_of_down hdown hconfigure
    have hsettled : configure a host = (.ok c, between) := by
      rw [configure_apply, hconfigure]
    rcases h with hstop | ⟨_, _, hgoes, h⟩
    · cases hsettled.symm.trans hstop
    cases hsettled.symm.trans hgoes
    dsimp only
    rcases hlogDir : c.logDir.path with cause | directory
    · rw [startLogging_apply, hlogDir] at h
      rcases h with hstop | ⟨_, hgoes, -⟩
      · cases hstop
        exact ⟨rfl, hkept hfiles hrouting⟩
      · cases hgoes
    · obtain ⟨hcode, hadds⟩ := stops_of_logging (hrouting ▸ hdown) hlogDir h more
      rw [logOptions, hclock] at hcode hadds
      rw [hfiles, hdirectory] at hadds
      exact ⟨hcode, hadds, fun p bytes ↦ hadds.readFile⟩

/-- A host with a signature file of one function and an earlier output file. -/
def withOldOutput : Host :=
  .untouched [(["s.json"], .file (Host.bytesOf "[\x7b\"name\":\"f\"\x7d]")),
    (["output"], .directory),
    (["output", "s.params.cs"], .file (Host.bytesOf "old()\n"))] []

/-- A name that is not in the file: the run stops, and the earlier output file is left as it was. -/
theorem execute_of_stop_unknownName :
    ∃ after, execute {} ["s.json", "--function", "g"] withOldOutput = (.exit 1, after) ∧
      withOldOutput.files.AddsLog [] (.ofText "logs")
        ["logs", "pysharp_reflector_20240102_030405.log"] after.files ∧
      after.files.readFile [] (.ofText "output/s.params.cs") = .ok (Host.bytesOf "old()\n") := by
  have hstops : (match (prepare {} ["s.json", "--function", "g"]
      (withOldOutput.begin (activity {}))).1 with
      | .error e => decide (e = .exit 1)
      | .ok _ => false) = true := by decide +kernel
  have hread : Arguments.read ["s.json", "--function", "g"] =
      .ok { signatureFile := some (.ofText "s.json"), functions := some "g" } := by decide +kernel
  have hsettles : (withOldOutput.configure
      { signatureFile := some (.ofText "s.json"), verbose := some false }).1 =
      .ok { signatureFile := .ofText "s.json", outputDir := .ofText "output" } := by decide +kernel
  have hlog : ((logOptions { signatureFile := .ofText "s.json", outputDir := .ofText "output" }
      (.ofEnvironment withOldOutput.environment) (.ofText "logs") withOldOutput).logFile.absolute
        withOldOutput.workingDirectory).target [] =
      (["logs", "pysharp_reflector_20240102_030405.log"] : Location) := by decide +kernel
  rcases hprepare :
    prepare {} ["s.json", "--function", "g"] (withOldOutput.begin (activity {})) with
    ⟨e | _, stopped⟩
  · rw [hprepare] at hstops
    obtain rfl := of_decide_eq_true hstops
    obtain ⟨hends, hleaves⟩ := execute_of_stop rfl hprepare
    rw [hread] at hleaves
    dsimp only [Arguments.overrides] at hleaves
    rcases hconfigure : withOldOutput.configure
      { signatureFile := some (.ofText "s.json"), verbose := some false } with ⟨_ | c, between⟩
    · rw [hconfigure] at hsettles
      cases hsettles
    · rw [hconfigure] at hsettles hleaves
      cases hsettles
      obtain ⟨-, hadds, hkept⟩ := hleaves
      rw [hlog] at hadds hkept
      exact ⟨_, Prod.ext hends rfl, hadds,
        hkept (.ofText "output/s.params.cs") _ (by decide +kernel) (by decide +kernel)⟩
  · rw [hprepare] at hstops
    exact absurd hstops Bool.false_ne_true

/-- A name of three hundred letters. -/
def longName : Text := List.replicate 300 97

/-- A signature file whose name is too long for a file: the settings are not reported as invalid,
and the run ends without an exit code. -/
theorem configure_raises_on_longName :
    Arguments.read [longName] = .ok { signatureFile := some (.ofText longName) } ∧
      (∃ stopped, prepare {} [longName] ((Host.untouched [] []).begin (activity {})) =
        (.error (.raised (.file (.system .nameTooLong longName))), stopped)) ∧
      ∃ after, execute {} [longName] (.untouched [] []) =
        (.raised (.file (.system .nameTooLong longName)), after) := by
  have hraises : (match (prepare {} [longName] ((Host.untouched [] []).begin (activity {}))).1 with
      | .error e => decide (e = .raised (.file (.system .nameTooLong longName)))
      | .ok _ => false) = true := by decide +kernel
  refine ⟨by decide +kernel, ?_⟩
  rcases hprepare : prepare {} [longName] ((Host.untouched [] []).begin (activity {})) with
    ⟨e | _, stopped⟩
  · rw [hprepare] at hraises
    obtain rfl := of_decide_eq_true hraises
    exact ⟨⟨stopped, rfl⟩, _, execute_of_prepare_eq_raised hprepare⟩
  · rw [hprepare] at hraises
    exact absurd hraises Bool.false_ne_true

end Run

end SignatureBridge
