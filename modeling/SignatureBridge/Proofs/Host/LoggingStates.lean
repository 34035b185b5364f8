import SignatureBridge.Proofs.Host.Recording

/-!
# The states of logging

Logging is started and reset, in between there are records, and a start may fail. `Reached` are the
hosts that this can lead to. A failed start leaves everything as it was if its directory could not
be made. If the directory is there and the log file is refused (`RefusesLog`), the start has already
set the console up and noted the path of the log file, and both stay (`startLogging_cases`).

So there are three states (`Reached.isSettled`). Logging is down or running as long as no log file
is refused; with refusals it can also be halfway, and a reset from there leaves a console behind
that no later reset takes down (`routing_of_failed_start`).
-/

namespace SignatureBridge

open Journal

/-! ### States -/

namespace Journal.Routing

/-- Logging is down: nothing is set up. -/
def IsDown (r : Routing) : Prop := r.started = false ∧ r.logFile = none ∧ r.channels = []

/-- Logging is running: console and log file are set up. -/
def IsRunning (r : Routing) : Prop :=
  r.started = true ∧ r.logFile.isSome = true ∧
    ∃ least l, r.channels = [.console least, .file l]

/-- A start was left halfway: the console is set up, and the path of the log file may be noted. -/
def IsHalfway (r : Routing) : Prop := r.started = false ∧ ∃ least, r.channels = [.console least]

end Journal.Routing

namespace Host

/-- Starting logging comes as far as the log file, which cannot be opened. -/
def RefusesLog (host : Host) (options : LogOptions) : Prop :=
  host.routing.started = false ∧ ∃ files cause,
    host.files.ensureDirectories host.workingDirectory options.directory = (.ok (), files) ∧
      files.openForWriting [] (options.logFile.absolute host.workingDirectory) = .error cause

/-- The hosts that starting, resetting and recording lead to from a fresh one. Other things may
happen in between, as long as they leave the routing alone. Unless refusals are admitted, no log
file was refused on the way. -/
inductive Reached (refusals : Bool) : Host → Prop
  | fresh {host : Host} : host.routing = {} → Reached refusals host
  | elsewhere {host after : Host} :
      Reached refusals host → after.routing = host.routing → Reached refusals after
  | start {host : Host} (options : LogOptions) :
      Reached refusals host → (host.RefusesLog options → refusals = true) →
        Reached refusals (host.startLogging options).2
  | reset {host : Host} : Reached refusals host → Reached refusals host.resetLogging
  | log {host : Host} (r : Record) : Reached refusals host → Reached refusals (host.log r)

/-! ### Records while logging is down -/

/-- While logging is down, a record can only appear on the error stream. -/
theorem log_of_down {host : Host} (h : host.routing.IsDown) (r : Record) :
    ∃ errors, host.log r = { host with errors } := by
  obtain ⟨-, -, hchannels⟩ := h
  rw [log, hchannels]
  split
  · dsimp only
    split
    · exact ⟨_, rfl⟩
    · exact ⟨_, rfl⟩
  · exact ⟨_, rfl⟩

theorem logAll_of_down (records : List Record) :
    ∀ {host : Host}, host.routing.IsDown →
      ∃ errors, host.logAll records = { host with errors } := by
  induction records with
  | nil => exact fun {host} _ ↦ ⟨host.errors, rfl⟩
  | cons r records ih =>
    intro host h
    obtain ⟨errors, hlog⟩ := log_of_down h r
    obtain ⟨errors', hrest⟩ := @ih { host with errors } h
    exact ⟨errors', by rw [logAll, List.foldl_cons, hlog]; exact hrest⟩

/-! ### What a start does -/

theorem openLog_eq_error {options : LogOptions} {host : Host} {cause : FileError}
    (h : host.files.openForWriting [] (options.logFile.absolute host.workingDirectory) =
      .error cause) :
    openLog options host =
      (.error cause, { host with routing := options.opening host.routing }) := by
  simp only [openLog, h]

theorem openLog_eq_ok {options : LogOptions} {host : Host} {l : Location}
    (h : host.files.openForWriting [] (options.logFile.absolute host.workingDirectory) = .ok l) :
    openLog options host =
      (.ok (), { host with
        files := host.files.appendAt l []
        routing := options.running l }.logAll options.firstRecords) := by
  simp only [openLog, h]

theorem startLogging_eq_error {options : LogOptions} {host : Host} {cause : FileError}
    {files : FileSystem} (hstarted : host.routing.started = false)
    (h : host.files.ensureDirectories host.workingDirectory options.directory =
      (.error cause, files)) :
    host.startLogging options = (.error cause, { host with files }) := by
  rw [startLogging, hstarted, if_neg Bool.false_ne_true, h]

theorem startLogging_eq_openLog {options : LogOptions} {host : Host} {files : FileSystem}
    (hstarted : host.routing.started = false)
    (h : host.files.ensureDirectories host.workingDirectory options.directory = (.ok (), files)) :
    host.startLogging options = openLog options { host with files } := by
  rw [startLogging, hstarted, if_neg Bool.false_ne_true, h]

/-- A start that succeeds has made its directory and opened its log file, and has recorded that. -/
theorem startLogging_eq_ok {options : LogOptions} {host after : Host}
    (hstarted : host.routing.started = false) (h : host.startLogging options = (.ok (), after)) :
    ∃ files l, host.files.ensureDirectories host.workingDirectory options.directory =
        (.ok (), files) ∧
      files.openForWriting [] (options.logFile.absolute host.workingDirectory) = .ok l ∧
      after = { host with
        files := files.appendAt l []
        routing := options.running l }.logAll options.firstRecords := by
  rcases hmake : host.files.ensureDirectories host.workingDirectory options.directory with
    ⟨cause | ⟨⟩, files⟩
  · rw [startLogging_eq_error hstarted hmake] at h
    exact absurd (congrArg Prod.fst h) (by simp)
  · rw [startLogging_eq_openLog hstarted hmake] at h
    rcases hopen : files.openForWriting [] (options.logFile.absolute host.workingDirectory) with
      cause | l
    · have hfails : openLog options { host with files } = (.error cause, _) :=
        openLog_eq_error hopen
      rw [hfails] at h
      exact absurd (congrArg Prod.fst h) (by simp)
    · have hopens : openLog options { host with files } = (.ok (), _) := openLog_eq_ok hopen
      rw [hopens] at h
      exact ⟨files, l, rfl, hopen, (Prod.mk.inj h).2.symm⟩

/-- A start that fails has at most made directories, and no channel belongs to a file after it. -/
theorem files_of_failed_start {options : LogOptions} {host after : Host} {cause : FileError}
    (hdown : host.routing.IsDown) (h : host.startLogging options = (.error cause, after)) :
    after.files = (host.files.ensureDirectories host.workingDirectory options.directory).2 ∧
      ∀ k, .file k ∉ after.routing.channels := by
  rcases hmake : host.files.ensureDirectories host.workingDirectory options.directory with
    ⟨cause | ⟨⟩, files⟩
  · rw [startLogging_eq_error hdown.1 hmake] at h
    obtain ⟨-, rfl⟩ := Prod.mk.inj h
    refine ⟨rfl, fun k hk ↦ ?_⟩
    rw [hdown.2.2] at hk
    exact absurd hk List.not_mem_nil
  · rw [startLogging_eq_openLog hdown.1 hmake] at h
    rcases hopen : files.openForWriting [] (options.logFile.absolute host.workingDirectory) with
      cause | l
    · have hfails : openLog options { host with files } = (.error cause, _) :=
        openLog_eq_error hopen
      rw [hfails] at h
      obtain ⟨-, rfl⟩ := Prod.mk.inj h
      exact ⟨rfl, fun k hk ↦ by simp [LogOptions.opening] at hk⟩
    · have hopens : openLog options { host with files } = (.ok (), _) := openLog_eq_ok hopen
      rw [hopens] at h
      exact absurd (congrArg Prod.fst h) (by simp)

/-- **A start, case by case.** It has nothing to do, it fails at the directory, it fails at the log
file, or it sets everything up. -/
theorem startLogging_cases (host : Host) (options : LogOptions) :
    (host.routing.started = true ∧ host.startLogging options = (.ok (), host)) ∨
    (¬ host.RefusesLog options ∧ ∃ cause after, host.startLogging options = (.error cause, after) ∧
      after.routing = host.routing) ∨
    (host.RefusesLog options ∧ ∃ cause after, host.startLogging options = (.error cause, after) ∧
      after.routing = options.opening host.routing) ∨
    (¬ host.RefusesLog options ∧ ∃ after l, host.startLogging options = (.ok (), after) ∧
      after.routing = options.running l) := by
  cases hstarted : host.routing.started with
  | true => exact .inl ⟨rfl, by rw [startLogging, if_pos hstarted]⟩
  | false =>
    rcases hmake : host.files.ensureDirectories host.workingDirectory options.directory with
      ⟨cause | ⟨⟩, files⟩
    · refine .inr (.inl ⟨?_, cause, _, startLogging_eq_error hstarted hmake, rfl⟩)
      rintro ⟨-, files', cause', hmake', -⟩
      exact absurd (hmake.symm.trans hmake') (by simp)
    · rw [startLogging_eq_openLog hstarted hmake]
      rcases hopen : files.openForWriting [] (options.logFile.absolute host.workingDirectory) with
        cause | l
      · have hrefuses : host.RefusesLog options := ⟨hstarted, files, cause, hmake, hopen⟩
        exact .inr (.inr (.inl ⟨hrefuses, cause, _, openLog_eq_error hopen, rfl⟩))
      · refine .inr (.inr (.inr ⟨?_, _, l, openLog_eq_ok hopen, ?_⟩))
        · rintro ⟨-, files', cause', hmake', hopen'⟩
          obtain rfl : files = files' := (Prod.mk.inj (hmake.symm.trans hmake')).2
          exact absurd (hopen.symm.trans hopen') (by simp)
        · exact (sameSetting_logAll _ _).routing

/-! ### States that can be reached -/

/-- A reset takes down what a running log has set up, and nothing else. -/
theorem channels_resetLogging (host : Host) :
    host.resetLogging.routing.channels =
      if host.routing.started then [] else host.routing.channels :=
  rfl

/-- **The states of logging.** It is down or running, or it was left halfway after a log file was
refused. -/
theorem Reached.isSettled {refusals : Bool} {host : Host} (h : Reached refusals host) :
    host.routing.IsDown ∨ host.routing.IsRunning ∨ refusals = true ∧ host.routing.IsHalfway := by
  induction h with
  | fresh hfresh =>
    rw [hfresh]
    exact .inl ⟨rfl, rfl, rfl⟩
  | elsewhere _ hrouting ih =>
    rw [hrouting]
    exact ih
  | log r _ ih =>
    rw [(sameSetting_log r _).routing]
    exact ih
  | @start host options _ hrefusals ih =>
    rcases host.startLogging_cases options with ⟨-, hstart⟩ | ⟨-, cause, after, hstart, hrouting⟩ |
      ⟨hrefuses, cause, after, hstart, hrouting⟩ | ⟨-, after, l, hstart, hrouting⟩
    · rw [hstart]
      exact ih
    · rw [hstart, hrouting]
      exact ih
    · rw [hstart, hrouting]
      exact .inr (.inr ⟨hrefusals hrefuses, hrefuses.1, options.consoleLevel, rfl⟩)
    · rw [hstart, hrouting]
      exact .inr (.inl ⟨rfl, rfl, options.consoleLevel, l, rfl⟩)
  | @reset host _ ih =>
    rcases ih with ⟨hstarted, -, hchannels⟩ | ⟨hstarted, -, -⟩ |
      ⟨hadmitted, hstarted, least, hchannels⟩
    · refine .inl ⟨rfl, rfl, ?_⟩
      rw [channels_resetLogging, hstarted, if_neg Bool.false_ne_true, hchannels]
    · refine .inl ⟨rfl, rfl, ?_⟩
      rw [channels_resetLogging, hstarted, if_pos rfl]
    · refine .inr (.inr ⟨hadmitted, rfl, least, ?_⟩)
      rw [channels_resetLogging, hstarted, if_neg Bool.false_ne_true, hchannels]

/-- **A failed start changes nothing, unless the log file was refused.** If the log file was not
refused, a start that fails leaves the routing as it is. If it was, logging is not started but the
path of the log file is noted and the console is set up, and a reset leaves the console there. So on
hosts that were reached without a refusal, logging is started exactly if the path of a log file is
noted, and a reset leaves no channel. -/
theorem routing_of_failed_start {refusals : Bool} {host : Host} (h : Reached refusals host) :
    (∀ options cause after, host.startLogging options = (.error cause, after) →
      (¬ host.RefusesLog options → after.routing = host.routing) ∧
      (host.RefusesLog options →
        after.routing.started = false ∧ after.routing.logFile = some options.logFile ∧
        after.routing.channels = [.console options.consoleLevel] ∧ after.routing.least = .debug ∧
        after.resetLogging.routing.channels = [.console options.consoleLevel])) ∧
    (refusals = false →
      (host.routing.started = true ↔ host.routing.logFile.isSome = true) ∧
      host.resetLogging.routing.channels = []) := by
  refine ⟨fun options cause after hfail ↦ ?_, fun hrefusals ↦ ?_⟩
  · rcases host.startLogging_cases options with ⟨-, hstart⟩ | ⟨hadmits, _, _, hstart, hrouting⟩ |
      ⟨hrefuses, _, _, hstart, hrouting⟩ | ⟨-, _, _, hstart, -⟩
    · exact absurd (hfail.symm.trans hstart) (by simp)
    · obtain ⟨-, rfl⟩ := Prod.mk.inj (hfail.symm.trans hstart)
      exact ⟨fun _ ↦ hrouting, fun hrefuses ↦ absurd hrefuses hadmits⟩
    · obtain ⟨-, rfl⟩ := Prod.mk.inj (hfail.symm.trans hstart)
      refine ⟨fun hadmits ↦ absurd hrefuses hadmits, fun _ ↦ ?_⟩
      have hstarted : (options.opening host.routing).started = false := hrefuses.1
      rw [channels_resetLogging, hrouting, hstarted, if_neg Bool.false_ne_true]
      exact ⟨rfl, rfl, rfl, rfl, rfl⟩
    · exact absurd (hfail.symm.trans hstart) (by simp)
  · rcases h.isSettled with ⟨hstarted, hlogFile, hchannels⟩ | ⟨hstarted, hlogFile, -⟩ |
      ⟨hadmitted, -⟩
    · rw [channels_resetLogging, hstarted, hlogFile, hchannels]
      simp
    · rw [channels_resetLogging, hstarted, hlogFile]
      simp
    · exact absurd (hrefusals.symm.trans hadmitted) Bool.false_ne_true

/-- How logging is started in the directory `logs` under a name. -/
def logsUnder (name : Text) : LogOptions where
  directory := .ofText "logs"
  name := name
  moment := (untouched [] []).clock

/-- Where a file stands in place of the directory, a start fails and changes nothing. -/
theorem routing_of_failed_start_at_file :
    ∃ after, (untouched [(["logs"], .file [])] []).startLogging (logsUnder "x") =
        (.error (.system .alreadyExists "logs"), after) ∧
      after.routing = (untouched [(["logs"], .file [])] []).routing ∧
      (untouched [(["logs"], .file [])] []).resetLogging.routing.channels = [] := by
  have hmake : ((untouched [(["logs"], .file [])] []).files.ensureDirectories []
      (.ofText "logs")).1 =
      .error (.system .alreadyExists "logs") := by decide +kernel
  have hadmits : ¬ (untouched [(["logs"], .file [])] []).RefusesLog (logsUnder "x") := by
    rintro ⟨-, files, cause, hmade, -⟩
    exact absurd (hmake.symm.trans (congrArg Prod.fst hmade)) (by simp)
  have hreached : Reached false (untouched [(["logs"], .file [])] []) := .fresh rfl
  obtain ⟨hfailed, hreset⟩ := routing_of_failed_start hreached
  have hstart : (untouched [(["logs"], .file [])] []).startLogging (logsUnder "x") =
      (.error (.system .alreadyExists "logs"), { untouched [(["logs"], .file [])] [] with
        files := ((untouched [(["logs"], .file [])] []).files.ensureDirectories []
          (.ofText "logs")).2 }) :=
    startLogging_eq_error rfl (Prod.ext hmake rfl)
  exact ⟨_, hstart, (hfailed _ _ _ hstart).1 hadmits, (hreset rfl).2⟩

/-- A name that leads into a missing directory: the start fails, but it notes the path of the log
file and leaves a console that a reset does not take down. -/
theorem failed_start_leaves_console :
    Reached true (untouched [] []) ∧ ∃ cause after,
      (untouched [] []).startLogging (logsUnder "/missing/x") = (.error cause, after) ∧
      after.routing ≠ (untouched [] []).routing ∧
      ¬ (after.routing.started = true ↔ after.routing.logFile.isSome = true) ∧
      after.resetLogging.routing.channels ≠ [] := by
  refine ⟨.fresh rfl, ?_⟩
  have hfails : ((untouched [] []).startLogging (logsUnder "/missing/x")).1 =
      .error (.system .notFound "/missing/x_20240102_030405.log") := by decide +kernel
  have hrouting : ((untouched [] []).startLogging (logsUnder "/missing/x")).2.routing =
      (logsUnder "/missing/x").opening {} := by decide +kernel
  rcases hstart : (untouched [] []).startLogging (logsUnder "/missing/x") with ⟨outcome, after⟩
  rw [hstart] at hfails hrouting
  refine ⟨_, after, by rw [← hfails], ?_, ?_, ?_⟩
  · rw [show after.routing = _ from hrouting]
    decide +kernel
  · rw [show after.routing = _ from hrouting]
    decide +kernel
  · rw [channels_resetLogging, show after.routing = _ from hrouting]
    decide +kernel

end Host

end SignatureBridge
