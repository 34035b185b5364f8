import SignatureBridge.Proofs.Command.Emission
import SignatureBridge.Proofs.Host.LoggingStates
import SignatureBridge.Proofs.Settings.Sources
import SignatureBridge.Proofs.Storage.LastNames

/-!
# What a run leaves in its output file

Before it writes, a run makes a directory for logs, opens a log file and makes a directory for the
output. All of this happens on one file system, so it has to be shown that the parts keep out of
each other's way. `FileSystem.Takes` says that a directory can be made and a file opened in it;
whatever file was there before is avoided by both paths (`Takes.avoids`). Between the steps a run
only records, which changes the log file and nothing else (`Host.LogsTo`). So what holds of the file
system once logging has started (`Host.withLog`) holds up to the log file whenever a later step
looks.

Writing empties the output file before the text is encoded (`writeOutput_of_takes`). Under default
settings a loadable signature file always comes to that point, and then the names of functions and
parameters decide: without a surrogate in them the output file is whole, and otherwise it is left
empty and the run has no exit code (`execute_of_defaults`).
-/

namespace SignatureBridge

open Journal

/-! ### Places for files -/

namespace FilePath

/-- An absolute path does not lead on from the working directory. -/
theorem origin_absolute (workingDirectory here : Location) (p : FilePath) :
    (p.absolute workingDirectory).origin here = [] := by
  obtain ⟨- | - | -, names⟩ := p <;> rfl

end FilePath

namespace FileSystem

variable {fs : FileSystem} {workingDirectory l : Location} {p : FilePath}

/-- An absolute path leads to the same place from everywhere. -/
theorem openForWriting_absolute (fs : FileSystem) (workingDirectory here : Location)
    (p : FilePath) :
    fs.openForWriting here (p.absolute workingDirectory) =
      fs.openForWriting [] (p.absolute workingDirectory) := by
  rw [openForWriting, openForWriting, resolve_eq, resolve_eq, FilePath.origin_absolute,
    FilePath.origin_absolute]

/-- A directory can be made, and a file can then be opened for writing at a location. -/
structure Takes (fs : FileSystem) (workingDirectory : Location) (directory file : FilePath)
    (l : Location) : Prop where
  made : (fs.ensureDirectories workingDirectory directory).1 = .ok ()
  opened : (fs.ensureDirectories workingDirectory directory).2.openForWriting
    workingDirectory file = .ok l

namespace Takes

variable {directory file : FilePath} (h : fs.Takes workingDirectory directory file l)
include h

theorem ensureDirectories_eq :
    fs.ensureDirectories workingDirectory directory =
      (.ok (), (fs.ensureDirectories workingDirectory directory).2) :=
  Prod.ext h.made rfl

/-- The ways to the directory and to the file avoid a file that was there before. -/
theorem avoids {k : Location} {bytes : List UInt8} (hk : fs.get? k = some (.file bytes))
    (hne : k ≠ l) :
    directory.Avoids workingDirectory k ∧ file.Avoids workingDirectory k := by
  obtain ⟨hadds, hentry⟩ := addsDirectories_ensureDirectories workingDirectory directory fs
  have hmade := hadds.keeps k _ hk
  have hplace : (fs.ensureDirectories workingDirectory directory).2.NoDirectory k := by
    simp [NoDirectory, hmade]
  obtain ⟨j, hresolve, hj⟩ := entryAt_eq_ok_iff.1 (hentry h.made)
  refine ⟨avoids_of_resolve hresolve hplace ?_,
    avoids_of_resolve (openForWriting_eq_ok h.opened).1 hplace hne⟩
  rintro rfl
  exact absurd (hmade.symm.trans hj) (by simp)

end Takes

end FileSystem

/-! ### Recording to a log file -/

namespace Host

variable {l : Location} {host between after : Host}

/-- There is no channel to another file than the log file at a location. -/
def OnlyLogsTo (l : Location) (host : Host) : Prop :=
  ∀ k, .file k ∈ host.routing.channels → k = l

/-- Records lead from the first host to the second, and the log file at a location is all that they
have changed of the files. -/
structure LogsTo (l : Location) (host after : Host) : Prop where
  onlyLogsTo : host.OnlyLogsTo l
  sameSetting : host.SameSetting after
  agreeOff : FileSystem.AgreeOff l host.files after.files

namespace LogsTo

theorem refl (h : host.OnlyLogsTo l) : LogsTo l host host := ⟨h, .refl host, .refl l _⟩

theorem trans (h : LogsTo l host between) (h' : LogsTo l between after) :
    LogsTo l host after :=
  ⟨h.onlyLogsTo, h.sameSetting.trans h'.sameSetting, h.agreeOff.trans h'.agreeOff⟩

theorem onlyLogsTo_after (h : LogsTo l host after) : after.OnlyLogsTo l := by
  rw [OnlyLogsTo, h.sameSetting.routing]
  exact h.onlyLogsTo

theorem logAll (h : LogsTo l host after) (records : List Record) :
    LogsTo l host (after.logAll records) :=
  h.trans ⟨h.onlyLogsTo_after, sameSetting_logAll records after,
    agreeOff_logAll records h.onlyLogsTo_after⟩

theorem log (h : LogsTo l host after) (r : Record) : LogsTo l host (after.log r) :=
  h.logAll [r]

theorem complain (h : LogsTo l host after) (t : Text) : LogsTo l host (after.complain t) :=
  h.trans ⟨h.onlyLogsTo_after, ⟨rfl, rfl, rfl, rfl⟩, .refl l _⟩

theorem reportAttempts (origin : Origin) (checkOrder verbose : Bool) (total index : Nat)
    (attempts : List Attempt) (h : LogsTo l host after) :
    LogsTo l host (Run.reportAttempts origin checkOrder verbose total index attempts after) := by
  induction attempts generalizing index after with
  | nil => exact h
  | cons a attempts ih =>
    refine ih (index + 1) ?_
    rw [Run.reportAttempt]
    split
    · exact h.logAll _
    · split
      · exact (h.logAll _).complain _
      · exact h.logAll _

/-- Records leave other files alone. -/
theorem get?_of_ne (h : LogsTo l host after) {k : Location} (hk : k ≠ l) :
    after.files.get? k = host.files.get? k :=
  (h.agreeOff k hk).symm

end LogsTo

/-- The host with logging started at a log file, which is empty if it is new. -/
def withLog (options : LogOptions) (l : Location) (host : Host) : Host :=
  { host with
    files :=
      (host.files.ensureDirectories host.workingDirectory options.directory).2.appendAt l []
    routing := options.running l }

theorem onlyLogsTo_withLog (options : LogOptions) (l : Location) (host : Host) :
    (host.withLog options l).OnlyLogsTo l := by
  intro k hk
  simpa [withLog, LogOptions.running] using hk

/-- The directory for logs can be made, and the log file in it can be opened. -/
def TakesLog (options : LogOptions) (l : Location) (host : Host) : Prop :=
  host.files.Takes host.workingDirectory options.directory
    (options.logFile.absolute host.workingDirectory) l

section

variable {options : LogOptions} (h : host.TakesLog options l)
include h

theorem get?_withLog : ∃ bytes, (host.withLog options l).files.get? l = some (.file bytes) := by
  have hl : l ≠ [] := (FileSystem.openForWriting_eq_ok h.opened).2.ne_nil
  exact ⟨_, by rw [withLog, FileSystem.appendAt, FileSystem.get?_put _ hl, if_pos rfl]⟩

theorem startLogging_of_takes (hstarted : host.routing.started = false) :
    host.startLogging options =
      (.ok (), (host.withLog options l).logAll options.firstRecords) := by
  have hopen := h.opened
  rw [FileSystem.openForWriting_absolute] at hopen
  rw [startLogging_eq_openLog hstarted h.ensureDirectories_eq]
  exact openLog_eq_ok hopen

/-- A file that is not the log file is still there once the log file is, and its path keeps away
from the log file. -/
theorem readFile_withLog {p : FilePath} {bytes : List UInt8}
    (hread : host.files.readFile host.workingDirectory p = .ok bytes)
    (hp : l ≠ p.target host.workingDirectory) :
    (host.withLog options l).files.readFile host.workingDirectory p = .ok bytes ∧
      p.Avoids host.workingDirectory l := by
  have hadds := (FileSystem.addsDirectories_ensureDirectories host.workingDirectory
    options.directory host.files).1
  have hentry := hadds.keeps.entryAt (FileSystem.readFile_eq_ok hread)
  obtain ⟨k, hresolve, -⟩ := FileSystem.entryAt_eq_ok_iff.1 hentry
  have havoids : p.Avoids host.workingDirectory l :=
    FileSystem.avoids_of_resolve hresolve (FileSystem.openForWriting_eq_ok h.opened).2
      ((FileSystem.resolve_eq_ok hresolve).1 ▸ hp)
  refine ⟨?_, havoids⟩
  rw [withLog, FileSystem.appendAt, ← ((FileSystem.AgreeOff.refl l _).put_right _).readFile havoids,
    FileSystem.readFile, hentry]

end

end Host

/-! ### Up to the selection -/

namespace Run

variable {words : List Text} {host : Host} {a : Arguments} {c : Config}
  {t : Tuning} {l output : Location} {logDir outputDir : FilePath}

theorem startLogging_of_takes (origin : Origin) (hlogDir : c.logDir.path = .ok logDir)
    (hlog : host.TakesLog (logOptions c t logDir host) l)
    (hstarted : host.routing.started = false) :
    ∃ after, startLogging origin c t host = (.ok (), after) ∧
      Host.LogsTo l (host.withLog (logOptions c t logDir host) l) after := by
  refine ⟨_, ?_, ((Host.LogsTo.refl (Host.onlyLogsTo_withLog _ l host)).logAll
    (logOptions c t logDir host).firstRecords).logAll (settingRecords origin c)⟩
  rw [startLogging_apply, hlogDir]
  dsimp only
  rw [Host.startLogging_of_takes hlog hstarted]

/-- A run of all signatures of a file comes to their selection, and on the way it has only started
logging and recorded something. -/
theorem prepare_of_takes (entry : EntryPoint) {bytes : List UInt8} {ss : List Signature}
    (hread : Arguments.read words = .ok a) (hall : a.functions = none)
    (hload : host.loadConfigWith a.overrides = (.ok c, host))
    (ht : t = .ofEnvironment host.environment) (hstarted : host.routing.started = false)
    (hfile : host.files.readFile host.workingDirectory c.signatureFile = .ok bytes)
    (hsignatures : Signature.readAll c.signatureFile bytes = .ok ss) (hne : ss ≠ [])
    (hlogDir : c.logDir.path = .ok logDir) (hlog : host.TakesLog (logOptions c t logDir host) l)
    (hp : l ≠ c.signatureFile.target host.workingDirectory) :
    ∃ after, prepare entry words host = (.ok ⟨a, t, c, ss⟩, after) ∧
      Host.LogsTo l (host.withLog (logOptions c t logDir host) l) after := by
  subst ht
  have harguments : readArguments entry words host = (.ok a, host) := by
    rw [readArguments, hread]
    rfl
  have hconfigure : configure a host = (.ok c, host) := by
    have hcheck : host.checkConfig c = .ok () := by
      rw [Host.checkConfig, Config.check, FileSystem.probe, FileSystem.readFile_eq_ok hfile]
    rw [configure_apply, Host.configure, hload]
    simp only [hcheck, Except.map]
  obtain ⟨started, hstart, hlogging⟩ := startLogging_of_takes entry.origin hlogDir hlog hstarted
  have hloaded : loadSignatures entry.origin c.signatureFile started =
      (.ok ss, (started.loadSignatures c.signatureFile).2) := by
    obtain ⟨hkept, havoids⟩ := Host.readFile_withLog hlog hfile hp
    have hdirectory : started.workingDirectory = host.workingDirectory :=
      hlogging.sameSetting.workingDirectory
    rw [hlogging.agreeOff.readFile havoids] at hkept
    have hfound : started.signatures c.signatureFile = .ok ss := by
      rw [Host.signatures, hdirectory, hkept]
      exact hsignatures
    rw [loadSignatures_apply, hfound]
  have hselected : ∀ host : Host,
      selectSignatures entry.origin a.functions ss host = (.ok ss, host) := by
    intro host
    rw [hall, selectSignatures]
    cases ss with
    | nil => exact absurd rfl hne
    | cons s rest => rfl
  refine ⟨(started.loadSignatures c.signatureFile).2, ?_, hlogging.logAll _⟩
  rw [prepare, Action.bind_eq_ok_iff]
  refine ⟨a, host, harguments, Action.bind_eq_ok_iff.2 ⟨host, host, getThe_apply host, ?_⟩⟩
  refine Action.bind_eq_ok_iff.2 ⟨c, host, hconfigure, ?_⟩
  refine Action.bind_eq_ok_iff.2 ⟨(), started, hstart, ?_⟩
  exact Action.bind_eq_ok_iff.2 ⟨ss, _, hloaded, Action.bind_eq_ok_iff.2 ⟨ss, _, hselected _, rfl⟩⟩

/-- Recording what came of the signatures only records. -/
theorem logsTo_recorded {started : Host} (h : Host.LogsTo l started host) (entry : EntryPoint)
    (p : Prepared) (reached : List Signature) :
    Host.LogsTo l started (recorded entry p reached host) :=
  (h.log _).reportAttempts _ _ _ _ _ _

/-! ### The output file -/

/-- The output file is emptied, and then filled if the text has a UTF-8 form. -/
theorem writeOutput_of_takes {started : Host} (origin : Origin) (text : Text)
    (h : Host.LogsTo l started host) (hlog : ∃ bytes, started.files.get? l = some (.file bytes))
    (houtputDir : c.outputDir.path = .ok outputDir)
    (houtput : started.files.Takes started.workingDirectory outputDir
      ((Tuning.ofEnvironment started.environment).outputFile c.signatureFile outputDir) output)
    (hne : l ≠ output) :
    match Utf8.encode text with
    | .ok bytes => ∃ after, writeOutput origin c text host = (.ok (), after) ∧
        after.OnlyLogsTo l ∧ after.files.get? output = some (.file bytes)
    | .error cause => ∃ after,
        writeOutput origin c text host = (.error (.raised (.unencodable cause)), after) ∧
        after.OnlyLogsTo l ∧ after.files.get? output = some (.file []) := by
  obtain ⟨bytes, hlog⟩ := hlog
  rw [← h.sameSetting.workingDirectory, ← h.sameSetting.environment] at houtput
  obtain ⟨hdirectory, hfile⟩ := houtput.avoids hlog hne
  have hnil : output ≠ [] := (FileSystem.openForWriting_eq_ok houtput.opened).2.ne_nil
  -- what the host has recorded does not get in the way
  obtain ⟨hmade, hagree⟩ := h.agreeOff.ensureDirectories hdirectory
  have hopen := houtput.opened
  rw [hagree.openForWriting hfile] at hopen
  rw [houtput.made] at hmade
  generalize hfiles : host.files.ensureDirectories host.workingDirectory outputDir = outcome
    at hmade hagree hopen
  obtain ⟨_, files⟩ := outcome
  obtain rfl : Except.ok () = _ := hmade
  have hensure : host.ensureOutputDir c = (.ok outputDir, { host with files }) := by
    rw [Host.ensureOutputDir, houtputDir]
    simp only [hfiles, Except.map]
  have hput : ∀ e, (files.put output e).get? output = some e := fun e ↦ by
    rw [FileSystem.get?_put files hnil, if_pos rfl]
  rw [writeOutput_apply, hensure]
  dsimp only
  rw [Host.writeFile]
  dsimp only
  rw [hopen]
  rcases Utf8.encode text with cause | encoded
  · exact ⟨_, rfl, h.onlyLogsTo_after, hput _⟩
  · have hfilled : Host.OnlyLogsTo l { host with files := files.put output (.file encoded) } :=
      h.onlyLogsTo_after
    have hlogged := (Host.LogsTo.refl hfilled).log ⟨origin, .info, "[SUCCESS] Wrote: " ++
      ((Tuning.ofEnvironment host.environment).outputFile c.signatureFile outputDir).text⟩
    exact ⟨_, rfl, hlogged.onlyLogsTo_after, (hlogged.get?_of_ne hne.symm).trans (hput _)⟩

end Run

/-! ### Default settings -/

/-- Nothing has happened on the host, and neither a file nor a variable asks for other settings than
the default ones. -/
structure Host.HasDefaults (host : Host) : Prop where
  fresh : host.routing = {}
  absent : host.files.probe host.workingDirectory envFile = .ok none
  unset : ∀ name ∈ Config.sources ++ Tuning.sources, host.environment.get? name = none

namespace Host.HasDefaults

variable {host : Host} (h : host.HasDefaults)
include h

theorem config : Config.ofEnvironment host.environment = .ofEnvironment {} :=
  Config.ofEnvironment_congr fun name hname ↦ h.unset name (List.mem_append_left _ hname)

theorem tuning : Tuning.ofEnvironment host.environment = {} :=
  have hunset : ∀ name ∈ Tuning.sources, host.environment.get? name = Environment.get? {} name :=
    fun name hname ↦ h.unset name (List.mem_append_right _ hname)
  Tuning.ofEnvironment_congr hunset

end Host.HasDefaults

/-- Logging and writing have what they need: the directories can be made one after the other, and
the log file and the output file can be opened in them. -/
def Host.TakesFiles (c : Config) (t : Tuning) (l output : Location) (host : Host) : Prop :=
  ∃ logDir outputDir, c.logDir.path = .ok logDir ∧ c.outputDir.path = .ok outputDir ∧
    host.TakesLog (Run.logOptions c t logDir host) l ∧
    (host.withLog (Run.logOptions c t logDir host) l).files.Takes host.workingDirectory outputDir
      (t.outputFile c.signatureFile outputDir) output

namespace Run

/-- A log file is no output file: they end differently. -/
theorem log_ne_output {fs fs' : FileSystem} {workingDirectory here l output : Location}
    {p : FilePath} {options : Host.LogOptions} {outputDir : FilePath} {t : Tuning}
    (hlog : fs.openForWriting here (options.logFile.absolute workingDirectory) = .ok l)
    (houtput : fs'.openForWriting workingDirectory (t.outputFile p outputDir) = .ok output)
    (ht : t.outputSuffix = FileName.defaultSuffix) : l ≠ output := by
  rw [← (FileSystem.resolve_eq_ok (FileSystem.openForWriting_eq_ok hlog).1).1,
    ← (FileSystem.resolve_eq_ok (FileSystem.openForWriting_eq_ok houtput).1).1]
  have hlogEnds : LastEndsWith ((".lo" : Text) ++ [103])
      ((options.logFile.absolute workingDirectory).target here) := by
    refine FilePath.lastEndsWith_target (FilePath.lastEndsWith_absolute
      (FilePath.lastEndsWith_append ?_ _) (by decide) _) (by decide) _
    exact FilePath.lastEndsWith_ofText (by decide) (by decide) _
  have houtputEnds : LastEndsWith ((".params.c" : Text) ++ [115])
      ((t.outputFile p outputDir).target workingDirectory) := by
    refine FilePath.lastEndsWith_target (FilePath.lastEndsWith_append ?_ _) (by decide) _
    rw [FileName.output, ht]
    exact FilePath.lastEndsWith_ofText (by decide) (by decide) _
  exact hlogEnds.ne houtputEnds (by decide)

/-- **A run under default settings writes the whole text, unless a name holds a surrogate.** The
host takes the log file and the output file, and the signature file, which is not the log file, can
be loaded and has at least one function. If no function that can be reflected has a surrogate in its
name or in that of a parameter, the run ends with exit code 0 or 1 and leaves the UTF-8 form of the
whole text in the output file. If there is such a function, the run ends with a failure to encode
and leaves the output file empty, whatever was in it. -/
theorem execute_of_defaults {entry : EntryPoint} {words : List Text} {host : Host} {a : Arguments}
    {bytes : List UInt8} {ss : List Signature} {l output : Location}
    (hread : Arguments.read words = .ok a) (hstdout : a.toOutput = false)
    (hall : a.functions = none) (hdefaults : host.HasDefaults)
    (htakes : host.TakesFiles (a.overrides.apply (.ofEnvironment {})) {} l output)
    (hfile : host.files.readFile host.workingDirectory
      (a.overrides.apply (.ofEnvironment {})).signatureFile = .ok bytes)
    (hp : l ≠ (a.overrides.apply (.ofEnvironment {})).signatureFile.target host.workingDirectory)
    (hsignatures : Signature.readAll (a.overrides.apply (.ofEnvironment {})).signatureFile bytes =
      .ok ss) (hne : ss ≠ []) :
    ((∀ s ∈ ss, s.fails = false → s.hasSurrogate = false) →
      ∃ encoded after, Utf8.encode (Batch.text ss) = .ok encoded ∧
        execute entry words host = (.exit (if ss.any Signature.fails then 1 else 0), after) ∧
        after.files.get? output = some (.file encoded)) ∧
    ((∃ s ∈ ss, s.fails = false ∧ s.hasSurrogate = true) →
      ∃ cause after, execute entry words host = (.raised (.unencodable cause), after) ∧
        after.files.get? output = some (.file [])) := by
  generalize hc : a.overrides.apply (.ofEnvironment {}) = c at htakes hfile hp hsignatures
  obtain ⟨logDir, outputDir, hlogDir, houtputDir, hlog, houtput⟩ := htakes
  have hload : host.loadConfigWith a.overrides = (.ok c, host) := by
    rw [host.loadConfigWith_of_absent hdefaults.absent, hdefaults.config, hc]
  have hstarted : host.routing.started = false := by rw [hdefaults.fresh]
  obtain ⟨after, hprepare, hlogging⟩ := prepare_of_takes entry hread hall hload
    hdefaults.tuning.symm hstarted hfile hsignatures hne hlogDir hlog hp
  rw [← hdefaults.tuning] at houtput
  have hne' : l ≠ output := log_ne_output hlog.opened houtput.opened (by rw [hdefaults.tuning])
  have hwritten := writeOutput_of_takes entry.origin (Batch.text ss)
    (logsTo_recorded hlogging entry ⟨a, {}, c, ss⟩ ss) (Host.get?_withLog hlog) houtputDir houtput
    hne'
  rw [← host.begin_of_fresh hdefaults.fresh (activity entry)] at hprepare
  have hreached : Batch.reached false ss = ss := Batch.reached_eq_self rfl ss
  have hemit : ∀ recorded : Host, emit entry.origin a c (Batch.text ss) recorded =
      writeOutput entry.origin c (Batch.text ss) recorded := fun recorded ↦ by
    rw [emit, hstdout, if_neg Bool.false_ne_true]
  -- records after the output do not touch its file
  have hkept : ∀ {written : Host} (records : List Record), written.OnlyLogsTo l →
      (written.logAll records).files.get? output = written.files.get? output := fun records h ↦
    ((Host.LogsTo.refl h).logAll records).get?_of_ne hne'.symm
  rcases hencode : Utf8.encode (Batch.text ss) with cause | encoded
  · rw [hencode] at hwritten
    obtain ⟨stopped, hemission, honly, hempty⟩ := hwritten
    obtain ⟨_, hcause, hexecute⟩ :=
      execute_of_emit_error hprepare hreached ((hemit _).trans hemission)
    cases hcause
    refine ⟨fun hclear ↦ ?_, fun _ ↦ ⟨cause, _, hexecute, ?_⟩⟩
    · have htext : (Batch.text ss).hasSurrogate = false := by
        rw [Bool.eq_false_iff, ne_eq, Batch.hasSurrogate_text_iff]
        rintro ⟨s, hs, hfails, hname⟩
        exact Bool.false_ne_true ((hclear s hs hfails).symm.trans hname)
      obtain ⟨encoded, h⟩ := Utf8.exists_encode_eq_ok_iff.2 htext
      exact absurd (hencode.symm.trans h) (by simp)
    · exact (hkept [_] honly).trans hempty
  · rw [hencode] at hwritten
    obtain ⟨written, hemission, honly, hwhole⟩ := hwritten
    have hexecute := execute_of_emit hprepare hreached ((hemit _).trans hemission)
    refine ⟨fun _ ↦ ⟨encoded, _, rfl, hexecute, (hkept _ honly).trans hwhole⟩, ?_⟩
    intro hsome
    rw [← Batch.hasSurrogate_text_iff] at hsome
    exact absurd (Utf8.exists_encode_eq_ok_iff.1 ⟨encoded, hencode⟩) (by simp [hsome])

/-- A host with a signature file of one function of one parameter, and with an earlier output
file. -/
def oneParameter (parameter : String) : Host :=
  .untouched [(["s.json"], .file (describing parameter)), (["output"], .directory),
    (["output", "s.params.cs"], .file (Host.bytesOf "old()\n"))] []

/-- A parameter whose default holds a surrogate. -/
def surrogateDefault : String :=
  "\x7b\"name\":\"m\",\"default\":\x7b\"type\":\"string\",\"value\":\"\\ud800\"\x7d\x7d"

/-- A surrogate in a default is escaped, and the output file is whole. -/
theorem execute_of_defaults_surrogateDefault :
    ∃ after, execute {} ["s.json"] (oneParameter surrogateDefault) = (.exit 0, after) ∧
      after.files.get? ["output", "s.params.cs"] =
        some (.file (Host.bytesOf "f(PyObject m = \"\\ud800\")\n")) := by
  have hcomes : (Signature.readAll (.ofText "s.json") (describing surrogateDefault)).toOption.any
      (fun ss ↦ !ss.isEmpty && ss.all (fun s ↦ !s.fails && !s.hasSurrogate) &&
        decide (Batch.text ss = "f(PyObject m = \"\\ud800\")\n")) = true := by decide +kernel
  rcases hsignatures : Signature.readAll (.ofText "s.json") (describing surrogateDefault) with
    cause | ss
  · rw [hsignatures] at hcomes
    exact absurd hcomes Bool.false_ne_true
  · rw [hsignatures] at hcomes
    simp only [Except.toOption, Option.any_some, Bool.and_eq_true, Bool.not_eq_true',
      List.isEmpty_eq_false_iff, List.all_eq_true, decide_eq_true_eq] at hcomes
    obtain ⟨⟨hne, hclear⟩, htext⟩ := hcomes
    have hdefaults : (oneParameter surrogateDefault).HasDefaults :=
      ⟨rfl, by decide +kernel, fun _ _ ↦ rfl⟩
    have htakes : (oneParameter surrogateDefault).TakesFiles
        { signatureFile := .ofText "s.json", outputDir := .ofText "output" } {}
        ["logs", "pysharp_reflector_20240102_030405.log"] ["output", "s.params.cs"] :=
      ⟨.ofText "logs", .ofText "output", rfl, rfl, ⟨by decide +kernel, by decide +kernel⟩,
        by decide +kernel, by decide +kernel⟩
    have hread : Arguments.read ["s.json"] = .ok { signatureFile := some (.ofText "s.json") } := by
      decide +kernel
    obtain ⟨encoded, after, hencode, hexecute, hfile⟩ :=
      (execute_of_defaults hread rfl rfl hdefaults htakes (by decide +kernel) (by decide +kernel)
        hsignatures hne).1 fun s hs _ ↦ (hclear s hs).2
    have hnone : ss.any Signature.fails = false := by
      rw [List.any_eq_false]
      exact fun s hs ↦ by simp [(hclear s hs).1]
    rw [hnone] at hexecute
    refine ⟨after, hexecute, ?_⟩
    have hbytes : Utf8.encode "f(PyObject m = \"\\ud800\")\n" =
        .ok (Host.bytesOf "f(PyObject m = \"\\ud800\")\n") := by decide +kernel
    rw [htext, hbytes] at hencode
    rw [hfile, ← Except.ok.inj hencode]

/-- A surrogate in the name of a parameter: the signatures are loaded, and the run ends without an
exit code and leaves an earlier output file empty. -/
theorem output_emptied_by_surrogate :
    (oneParameter surrogateName).HasDefaults ∧
      (oneParameter surrogateName).TakesFiles
        { signatureFile := .ofText "s.json", outputDir := .ofText "output" } {}
        ["logs", "pysharp_reflector_20240102_030405.log"] ["output", "s.params.cs"] ∧
      (∃ bytes ss, (oneParameter surrogateName).files.readFile [] (.ofText "s.json") = .ok bytes ∧
        Signature.readAll (.ofText "s.json") bytes = .ok ss ∧ ss ≠ []) ∧
      (oneParameter surrogateName).files.get? ["output", "s.params.cs"] =
        some (.file (Host.bytesOf "old()\n")) ∧
      ∃ cause after,
        execute {} ["s.json"] (oneParameter surrogateName) = (.raised (.unencodable cause), after) ∧
          after.files.get? ["output", "s.params.cs"] = some (.file []) := by
  refine ⟨⟨rfl, by decide +kernel, fun _ _ ↦ rfl⟩,
    ⟨.ofText "logs", .ofText "output", rfl, rfl, ⟨by decide +kernel, by decide +kernel⟩,
      by decide +kernel, by decide +kernel⟩, ?_, by decide +kernel, ?_⟩
  · have hloaded : (Signature.readAll (.ofText "s.json") (describing surrogateName)).toOption.any
        (!·.isEmpty) = true := by decide +kernel
    rcases hsignatures : Signature.readAll (.ofText "s.json") (describing surrogateName) with
      cause | ss
    · rw [hsignatures] at hloaded
      exact absurd hloaded Bool.false_ne_true
    · rw [hsignatures] at hloaded
      exact ⟨_, ss, by decide +kernel, hsignatures, by simpa [Except.toOption] using hloaded⟩
  · have hends : (fun result : Ending × Host ↦
        (result.1, result.2.files.get? ["output", "s.params.cs"]))
          (execute {} ["s.json"] (oneParameter surrogateName)) =
        (.raised (.unencodable ⟨12, 13, 0xD800⟩), some (.file [])) := by decide +kernel
    rcases hexecute : execute {} ["s.json"] (oneParameter surrogateName) with ⟨ending, after⟩
    rw [hexecute] at hends
    obtain ⟨rfl, hempty⟩ := Prod.mk.inj hends
    exact ⟨_, after, rfl, hempty⟩

end Run

end SignatureBridge
