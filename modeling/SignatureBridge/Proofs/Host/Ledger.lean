import SignatureBridge.Proofs.Host.LoggingStates
import SignatureBridge.Proofs.Host.Reports

/-!
# The ledger of logging

A program starts and resets logging, records, and times its calls, any number of times and in any
order (`LogStep`). What it should leave in the log files and on the output stream can be told from
the steps alone. The first start since the last reset opens a session, which lasts until the next
reset, and each record made in a session is an entry of the ledger under that session
(`Host.ledger`).

`Host.Wrote` says that from one host to another some entries were written and nothing else: every
file has at its end the lines of its entries, in order, and the output stream has those that the
console shows. A record writes its entry (`LogState.Holds.wrote_log`), a step writes the entries of
its records (`LogState.Holds.wrote_step`), and so a whole run of steps writes its ledger
(`performAll_writes_ledger`).
-/

namespace SignatureBridge

open Journal FileSystem

namespace Host

/-! ### Steps -/

/-- A step of a program that logs. -/
inductive LogStep where
  | start (options : LogOptions)
  | reset
  | log (r : Record)
  /-- A timed call is entered; the steps of its body follow. -/
  | enter (a : Activity)
  /-- A timed call is left, between two readings of the clock and for the cause that stopped it, if
  anything did. -/
  | leave (a : Activity) (began ended : Reading) (i : Option Interruption)
  /-- Time passes. -/
  | wait (moment : Moment)

namespace LogStep

/-- The steps of a timed call around those of its body. -/
def call (a : Activity) (began ended : Reading) (i : Option Interruption) (body : List LogStep) :
    List LogStep :=
  enter a :: body ++ [leave a began ended i]

/-- Takes a step, which only a start can fail to do. -/
def perform (host : Host) : LogStep → Except FileError Host
  | start options =>
    match host.startLogging options with
    | (.ok (), after) => .ok after
    | (.error cause, _) => .error cause
  | reset => .ok host.resetLogging
  | log r => .ok (host.log r)
  | enter a => .ok (host.begin a)
  | leave a began ended i => .ok (host.logAll (a.closing (Reading.elapsed began ended) i))
  | wait moment => .ok { host with clock := moment }

end LogStep

/-- Takes steps one after the other, up to the first start that fails. -/
def performAll (host : Host) (steps : List LogStep) : Except FileError Host :=
  steps.foldlM LogStep.perform host

/-! ### The ledger -/

/-- What steps have made of logging: the time, and the session that is open. -/
structure LogState where
  clock : Moment
  session : Option LogOptions := none

namespace LogStep

/-- The state after a step. A start within a session changes nothing. -/
def next (s : LogState) : LogStep → LogState
  | start options => { s with session := some (s.session.getD options) }
  | reset => { s with session := none }
  | wait moment => { s with clock := moment }
  | _ => s

/-- The records that a step makes. -/
def records (s : LogState) : LogStep → List Record
  | start options => if s.session.isSome then [] else options.firstRecords
  | log r => [r]
  | enter a => [a.started]
  | leave a began ended i => a.closing (Reading.elapsed began ended) i
  | reset | wait _ => []

end LogStep

/-- The state after steps. -/
def LogState.run (s : LogState) (steps : List LogStep) : LogState := steps.foldl LogStep.next s

/-- A record that was made in a session. -/
structure LedgerEntry where
  session : LogOptions
  clock : Moment
  record : Record

namespace LedgerEntry

/-- The location of the log file of the session. -/
def location (workingDirectory : Location) (e : LedgerEntry) : Location :=
  (e.session.logFile.absolute workingDirectory).target []

/-- The line in the log file. -/
def line (e : LedgerEntry) : Text := e.record.full e.clock.stamp ++ [10]

/-- The bytes in the log file. -/
def bytes (e : LedgerEntry) : List UInt8 := e.line.flatMap Utf8.encodePoint

/-- What the console shows. -/
def shown (e : LedgerEntry) : Text :=
  if e.session.verbose || e.record.level.reaches .info then e.record.brief ++ [10] else []

/-- The texts of the record are Unicode. -/
def IsUnicode (e : LedgerEntry) : Prop :=
  e.record.message.hasSurrogate = false ∧ e.record.origin.name.hasSurrogate = false

instance (e : LedgerEntry) : Decidable e.IsUnicode := inferInstanceAs (Decidable (_ ∧ _))

end LedgerEntry

/-- The entries of records, which are none without a session. -/
def LogState.entries (s : LogState) (records : List Record) : List LedgerEntry :=
  match s.session with
  | none => []
  | some session => records.map fun r ↦ ⟨session, s.clock, r⟩

/-- The entries of steps. What a start records belongs to the session that it opens. -/
def ledger : LogState → List LogStep → List LedgerEntry
  | _, [] => []
  | s, step :: steps =>
    (step.next s).entries (step.records s) ++ ledger (step.next s) steps

/-- From the first host to the second, the entries were written and nothing else was. -/
structure Wrote (entries : List LedgerEntry) (host after : Host) : Prop where
  workingDirectory : after.workingDirectory = host.workingDirectory
  files : ∀ l, after.files.bytesAt l = host.files.bytesAt l ++
    (entries.filter fun e ↦ e.location host.workingDirectory = l).flatMap LedgerEntry.bytes
  output : after.output = host.output ++ entries.flatMap LedgerEntry.shown

namespace Wrote

variable {host between after : Host} {entries entries' : List LedgerEntry}

theorem of_same (hdirectory : after.workingDirectory = host.workingDirectory)
    (hfiles : ∀ l, after.files.bytesAt l = host.files.bytesAt l)
    (houtput : after.output = host.output) : Wrote [] host after where
  workingDirectory := hdirectory
  files l := by rw [hfiles, List.filter_nil, List.flatMap_nil, List.append_nil]
  output := by rw [houtput, List.flatMap_nil, List.append_nil]

theorem refl (host : Host) : Wrote [] host host := of_same rfl (fun _ ↦ rfl) rfl

theorem trans (h : Wrote entries host between) (h' : Wrote entries' between after) :
    Wrote (entries ++ entries') host after where
  workingDirectory := h'.workingDirectory.trans h.workingDirectory
  files l := by
    rw [h'.files, h.files, h.workingDirectory, List.append_assoc, List.filter_append,
      List.flatMap_append]
  output := by rw [h'.output, h.output, List.append_assoc, List.flatMap_append]

/-- Nothing that was in a file is removed or changed. -/
theorem bytesAt_prefix (h : Wrote entries host after) (l : Location) :
    host.files.bytesAt l <+: after.files.bytesAt l :=
  ⟨_, (h.files l).symm⟩

end Wrote

/-! ### A record -/

/-- Logging on a host is in a state: it is down, or it runs with the log file of the session. -/
structure LogState.Holds (s : LogState) (host : Host) : Prop where
  clock : host.clock = s.clock
  routing :
    match s.session with
    | none => host.routing.IsDown
    | some options => ∃ l ≠ [], l = (options.logFile.absolute host.workingDirectory).target [] ∧
        host.routing = options.running l

/-- The time and the session do not change with the files and the streams. -/
theorem LogState.Holds.congr {s : LogState} {host after : Host} (h : s.Holds host)
    (hsame : host.SameSetting after) : s.Holds after := by
  refine ⟨hsame.clock.trans h.clock, ?_⟩
  rw [hsame.routing, hsame.workingDirectory]
  exact h.routing

end Host

/-- A time is written without surrogates. -/
theorem Journal.Moment.hasSurrogate_stamp (m : Moment) : m.stamp.hasSurrogate = false := by
  simp only [Moment.stamp, Moment.twoDigits, Text.hasSurrogate_append, Text.hasSurrogate_ofString,
    Text.hasSurrogate_padZeros, Text.hasSurrogate_ofNat, Bool.or_false]

namespace Host

theorem hasSurrogate_levelName (level : Level) : level.name.hasSurrogate = false := by
  cases level <;> exact Text.hasSurrogate_ofString _

namespace LedgerEntry.IsUnicode

variable {e : LedgerEntry} (h : e.IsUnicode)
include h

theorem line : e.line.hasSurrogate = false := by
  simp only [LedgerEntry.line, Record.full, Text.hasSurrogate_append, Text.hasSurrogate_ofString,
    Text.hasSurrogate_lineFeed, Moment.hasSurrogate_stamp, hasSurrogate_levelName, h.1, h.2,
    Bool.or_false]

theorem brief : (e.record.brief ++ [10]).hasSurrogate = false := by
  simp only [Record.brief, Text.hasSurrogate_append, Text.hasSurrogate_ofString,
    Text.hasSurrogate_lineFeed, hasSurrogate_levelName, h.1, Bool.or_false]

end LedgerEntry.IsUnicode

/-- The level of the console lets through what is to be shown. -/
theorem reaches_consoleLevel (options : LogOptions) (level : Level) :
    level.reaches options.consoleLevel = (options.verbose || level.reaches .info) := by
  rw [LogOptions.consoleLevel]
  cases options.verbose <;> cases level <;> rfl

section

variable {options : LogOptions} {clock : Moment} {r : Record}
  (hunicode : (⟨options, clock, r⟩ : LedgerEntry).IsUnicode)
include hunicode

/-- While logging runs, the console shows what the entry of a record has for it. -/
theorem shown_running (l : Location) :
    (options.running l).shown r = (⟨options, clock, r⟩ : LedgerEntry).shown := by
  have hkept : r.level.reaches .debug = true := by simp [Level.reaches, Level.rank]
  have hclear : (r.brief ++ [10]).hasSurrogate = false := hunicode.brief
  simp [Routing.shown, Routing.channelsOf, LogOptions.running, Channel.shown, hkept, hclear,
    reaches_consoleLevel, LedgerEntry.shown]

/-- While logging runs, the log file and no other gets the bytes of the entry. -/
theorem logged_running (l k : Location) :
    (options.running l).logged clock.stamp k r =
      if l = k then (⟨options, clock, r⟩ : LedgerEntry).bytes else [] := by
  have hkept : r.level.reaches .debug = true := by simp [Level.reaches, Level.rank]
  have hclear : (r.full clock.stamp ++ [10]).hasSurrogate = false := hunicode.line
  simp [Routing.logged, Routing.channelsOf, LogOptions.running, Channel.logged, hkept, hclear,
    LedgerEntry.bytes, LedgerEntry.line]

end

namespace LogState.Holds

variable {s : LogState} {host : Host}

/-- **A record writes its entry**: in a session it adds one line to the log file of the session, and
otherwise nothing. -/
theorem wrote_log (h : s.Holds host) {r : Record} (hunicode : ∀ e ∈ s.entries [r], e.IsUnicode) :
    s.Holds (host.log r) ∧ Wrote (s.entries [r]) host (host.log r) := by
  refine ⟨h.congr (sameSetting_log r host), ?_⟩
  obtain ⟨hclock, hrouting⟩ := h
  rcases s with ⟨clock, - | options⟩
  · obtain ⟨errors, hlog⟩ := log_of_down hrouting r
    rw [hlog]
    exact .of_same rfl (fun _ ↦ rfl) rfl
  · obtain ⟨l, hl, rfl, hrouting⟩ := hrouting
    obtain rfl : host.clock = clock := hclock
    have hreports := reports_log r host
    have hentry := hunicode _ List.mem_cons_self
    refine ⟨hreports.sameSetting.workingDirectory, fun k ↦ ?_, ?_⟩
    · rcases eq_or_ne k [] with rfl | hk
      · -- there is no file at the root, and no entry belongs there
        simp [LogState.entries, LedgerEntry.location, hl, bytesAt, get?]
      · rw [hreports.bytesAt k hk, List.flatMap_singleton, hrouting, logged_running hentry]
        split <;> simp [LogState.entries, LedgerEntry.location, *]
    · rw [hreports.output, List.flatMap_singleton, hrouting, shown_running hentry]
      simp [LogState.entries]

theorem wrote_logAll (records : List Record) :
    ∀ {host : Host}, s.Holds host → (∀ e ∈ s.entries records, e.IsUnicode) →
      s.Holds (host.logAll records) ∧ Wrote (s.entries records) host (host.logAll records) := by
  have hcons : ∀ r records, s.entries (r :: records) = s.entries [r] ++ s.entries records := by
    intro r records
    rcases s with ⟨clock, - | options⟩ <;> rfl
  induction records with
  | nil =>
    intro host h _
    refine ⟨h, ?_⟩
    rcases s with ⟨clock, - | options⟩ <;> exact .refl host
  | cons r records ih =>
    intro host h hunicode
    rw [hcons] at hunicode ⊢
    obtain ⟨hholds, hwrote⟩ := h.wrote_log fun e he ↦ hunicode e (List.mem_append_left _ he)
    obtain ⟨hholds', hwrote'⟩ := ih hholds fun e he ↦ hunicode e (List.mem_append_right _ he)
    exact ⟨hholds', hwrote.trans hwrote'⟩

/-! ### A step -/

/-- Within a session a start does nothing. -/
theorem startLogging_of_session (h : s.Holds host) (hsession : s.session.isSome = true)
    (options : LogOptions) : host.startLogging options = (.ok (), host) := by
  obtain ⟨session, hs⟩ := Option.isSome_iff_exists.1 hsession
  obtain ⟨-, hrouting⟩ := h
  rw [hs] at hrouting
  obtain ⟨l, -, -, hrouting⟩ := hrouting
  have hstarted : host.routing.started = true := by rw [hrouting]; rfl
  rw [startLogging, if_pos hstarted]

/-- Without a session a start that succeeds opens one. It makes directories and the log file, and
records. -/
theorem exists_opened_of_start (h : s.Holds host) (hsession : s.session = none)
    {options : LogOptions} {after : Host} (hstart : host.startLogging options = (.ok (), after)) :
    ∃ opened, LogState.Holds { s with session := some options } opened ∧ Wrote [] host opened ∧
      after = opened.logAll options.firstRecords := by
  obtain ⟨hclock, hrouting⟩ := h
  rw [hsession] at hrouting
  obtain ⟨files, l, hmake, hopen, hafter⟩ := startLogging_eq_ok hrouting.1 hstart
  obtain ⟨hresolve, hplace⟩ := openForWriting_eq_ok hopen
  have hadds : host.files.AddsDirectories files := by
    have h := (addsDirectories_ensureDirectories host.workingDirectory options.directory
      host.files).1
    rwa [hmake] at h
  have hsame : ∀ k, (files.appendAt l []).bytesAt k = host.files.bytesAt k := fun k ↦ by
    rw [bytesAt_appendAt files hplace.ne_nil, hadds.bytesAt, ite_self, List.append_nil]
  refine ⟨{ host with files := files.appendAt l [], routing := options.running l }, ⟨hclock, ?_⟩,
    .of_same rfl hsame rfl, hafter⟩
  exact ⟨l, hplace.ne_nil, (resolve_eq_ok hresolve).1.symm, rfl⟩

/-- **A step writes the entries of its records**, and logging is in the next state after it. -/
theorem wrote_step (h : s.Holds host) {step : LogStep} {after : Host}
    (hstep : step.perform host = .ok after)
    (hunicode : ∀ e ∈ (step.next s).entries (step.records s), e.IsUnicode) :
    (step.next s).Holds after ∧ Wrote ((step.next s).entries (step.records s)) host after := by
  cases step with
  | start options =>
    rw [LogStep.perform] at hstep
    rcases hstart : host.startLogging options with ⟨cause | ⟨⟩, started⟩
    · rw [hstart] at hstep
      exact absurd hstep (by simp)
    · rw [hstart] at hstep
      obtain rfl := Except.ok.inj hstep
      rcases hsession : s.session with - | session
      · obtain ⟨opened, hholds, hwrote, rfl⟩ := h.exists_opened_of_start hsession hstart
        simp only [LogStep.next, LogStep.records, hsession] at hunicode ⊢
        obtain ⟨hholds', hwrote'⟩ := wrote_logAll options.firstRecords hholds hunicode
        exact ⟨hholds', hwrote.trans hwrote'⟩
      · obtain ⟨-, rfl⟩ := Prod.mk.inj
          ((h.startLogging_of_session (by rw [hsession]; rfl) options).symm.trans hstart)
        have hnext : (LogStep.start options).next s = s := by
          rw [LogStep.next, hsession, Option.getD_some, ← hsession]
        rw [hnext, LogStep.records, hsession]
        refine ⟨h, ?_⟩
        rw [LogState.entries, hsession]
        exact .refl host
  | reset =>
    obtain rfl := Except.ok.inj hstep
    refine ⟨⟨h.clock, rfl, rfl, ?_⟩, .of_same rfl (fun _ ↦ rfl) rfl⟩
    obtain ⟨-, hrouting⟩ := h
    rw [channels_resetLogging]
    rcases s with ⟨clock, - | options⟩
    · rw [hrouting.2.2, ite_self]
    · obtain ⟨l, -, -, hrouting⟩ := hrouting
      rw [hrouting]
      rfl
  | log r =>
    obtain rfl := Except.ok.inj hstep
    exact h.wrote_log hunicode
  | enter a =>
    obtain rfl := Except.ok.inj hstep
    exact h.wrote_log hunicode
  | leave a began ended i =>
    obtain rfl := Except.ok.inj hstep
    exact wrote_logAll _ h hunicode
  | wait moment =>
    obtain rfl := Except.ok.inj hstep
    refine ⟨⟨rfl, h.routing⟩, ?_⟩
    rcases s with ⟨clock, - | options⟩ <;> exact .of_same rfl (fun _ ↦ rfl) rfl

/-! ### Steps one after the other -/

/-- Steps write their ledger. -/
theorem wrote_all {steps : List LogStep} :
    ∀ {s : LogState} {host after : Host}, s.Holds host → performAll host steps = .ok after →
      (∀ e ∈ ledger s steps, e.IsUnicode) →
      (s.run steps).Holds after ∧ Wrote (ledger s steps) host after := by
  induction steps with
  | nil =>
    intro s host after h hrun _
    obtain rfl : host = after := Except.ok.inj hrun
    exact ⟨h, .refl host⟩
  | cons step steps ih =>
    intro s host after h hrun hunicode
    rw [performAll, List.foldlM_cons] at hrun
    rcases hstep : step.perform host with cause | between
    · rw [hstep] at hrun
      exact absurd hrun (by simp [Bind.bind, Except.bind])
    · rw [hstep] at hrun
      obtain ⟨hholds, hwrote⟩ :=
        h.wrote_step hstep fun e he ↦ hunicode e (List.mem_append_left _ he)
      obtain ⟨hholds', hwrote'⟩ := ih hholds hrun fun e he ↦ hunicode e (List.mem_append_right _ he)
      exact ⟨hholds', hwrote.trans hwrote'⟩

end LogState.Holds

theorem ledger_append (s : LogState) (first rest : List LogStep) :
    ledger s (first ++ rest) = ledger s first ++ ledger (s.run first) rest := by
  induction first generalizing s with
  | nil => rfl
  | cons step first ih =>
    rw [List.cons_append, ledger, ledger, ih, List.append_assoc]
    rfl

theorem exists_between_of_performAll {host after : Host} {first rest : List LogStep}
    (h : performAll host (first ++ rest) = .ok after) :
    ∃ between, performAll host first = .ok between ∧ performAll between rest = .ok after := by
  rw [performAll, List.foldlM_append] at h
  rcases hfirst : performAll host first with cause | between
  · rw [performAll] at hfirst
    rw [hfirst] at h
    exact absurd h (by simp [Bind.bind, Except.bind])
  · rw [performAll] at hfirst
    rw [hfirst] at h
    exact ⟨between, rfl, h⟩

/-- What a program can tell of logging in a state: whether it is started, which log file it has, and
that neither another start in a session nor a record outside of one has an effect. -/
structure LogState.Shows (s : LogState) (host : Host) : Prop where
  started : host.routing.started = s.session.isSome
  logFile : host.routing.logFile = s.session.map LogOptions.logFile
  startLogging : s.session.isSome = true →
    ∀ options, host.startLogging options = (.ok (), host)
  log : s.session = none →
    ∀ r, (host.log r).files = host.files ∧ (host.log r).output = host.output

theorem LogState.Holds.shows {s : LogState} {host : Host} (h : s.Holds host) : s.Shows host := by
  have hstart := fun hsession ↦ h.startLogging_of_session hsession
  obtain ⟨-, hrouting⟩ := h
  rcases s with ⟨clock, - | session⟩
  · refine ⟨hrouting.1, hrouting.2.1, hstart, fun _ r ↦ ?_⟩
    obtain ⟨errors, hlog⟩ := log_of_down hrouting r
    rw [hlog]
    exact ⟨rfl, rfl⟩
  · obtain ⟨l, -, -, hrouting⟩ := hrouting
    refine ⟨?_, ?_, hstart, fun hnone ↦ absurd hnone (by simp)⟩
    · rw [hrouting]
      rfl
    · rw [hrouting]
      rfl

/-- **Logging neither loses nor repeats nor overwrites a record.** From a host on which logging is
down, let steps be taken of which every start succeeds, with records whose texts are Unicode. Then
exactly the ledger of the steps is written: each record that is made in a session adds one line at
the end of the log file of that session, and shows once on the output stream if the session is
verbose or the record weighs enough. At any point in between the ledger of the steps so far has been
written, and only that of the others is still to come; logging is started exactly in a session, with
its log file; a start in a session and a record outside of one leave files and output as they are;
and what is in a file by then is still there at the end. -/
theorem performAll_writes_ledger {host after : Host} {steps : List LogStep}
    (hdown : host.routing.IsDown) (hrun : performAll host steps = .ok after)
    (hunicode : ∀ e ∈ ledger { clock := host.clock } steps, e.IsUnicode) :
    Wrote (ledger { clock := host.clock } steps) host after ∧
      ∀ first rest, steps = first ++ rest →
        let s := LogState.run { clock := host.clock } first
        ∃ between, performAll host first = .ok between ∧ performAll between rest = .ok after ∧
          Wrote (ledger { clock := host.clock } first) host between ∧
          Wrote (ledger s rest) between after ∧ s.Shows between ∧
          ∀ l, between.files.bytesAt l <+: after.files.bytesAt l := by
  have hholds : LogState.Holds { clock := host.clock } host := ⟨rfl, hdown⟩
  refine ⟨(hholds.wrote_all hrun hunicode).2, ?_⟩
  rintro first rest rfl s
  obtain ⟨between, hfirst, hrest⟩ := exists_between_of_performAll hrun
  rw [ledger_append] at hunicode
  obtain ⟨hbetween, hwrote⟩ :=
    hholds.wrote_all hfirst fun e he ↦ hunicode e (List.mem_append_left _ he)
  obtain ⟨-, hwrote'⟩ := hbetween.wrote_all hrest fun e he ↦ hunicode e (List.mem_append_right _ he)
  exact ⟨between, hfirst, hrest, hwrote, hwrote', hbetween.shows, hwrote'.bytesAt_prefix⟩

/-- Two sessions with one log file, the second of them verbose and around a timed call that fails;
another start in the second, and a record between the two. -/
def twoSessions : List LogStep :=
  [.start (logsUnder "x"), .log ⟨.named "m", .debug, "one"⟩, .reset,
    .log ⟨.named "m", .error, "lost"⟩, .start { logsUnder "x" with verbose := true },
    .start (logsUnder "y"), .wait ⟨2024, 1, 2, 3, 4, 6⟩] ++
  LogStep.call ⟨.named "m", "f"⟩ (.whole 1) (.whole 3) (some ⟨"ValueError", "bad"⟩)
    [.log ⟨.named [], .info, "two"⟩]

/-- A host with a log file of an earlier program. -/
def withOldLog : Host :=
  untouched [(["logs"], .directory),
    (["logs", "x_20240102_030405.log"], .file (bytesOf "old\n"))] []

theorem performAll_writes_twoSessions :
    ∃ after, performAll withOldLog twoSessions = .ok after ∧
      after.files.bytesAt ["logs", "y_20240102_030405.log"] = [] ∧
      after.files.bytesAt ["logs", "x_20240102_030405.log"] = ([
        "old\n",
        "2024-01-02 03:04:05 - pysharp_reflector.infrastructure.logging.logger_setup - INFO - ",
        "Logging initialized. Log file: logs/x_20240102_030405.log\n",
        "2024-01-02 03:04:05 - pysharp_reflector.infrastructure.logging.logger_setup - DEBUG - ",
        "Verbose mode: False\n",
        "2024-01-02 03:04:05 - m - DEBUG - one\n",
        "2024-01-02 03:04:05 - pysharp_reflector.infrastructure.logging.logger_setup - INFO - ",
        "Logging initialized. Log file: logs/x_20240102_030405.log\n",
        "2024-01-02 03:04:05 - pysharp_reflector.infrastructure.logging.logger_setup - DEBUG - ",
        "Verbose mode: True\n",
        "2024-01-02 03:04:06 - m - DEBUG - Starting f\n",
        "2024-01-02 03:04:06 - root - INFO - two\n",
        "2024-01-02 03:04:06 - m - ERROR - Failed f after 2000.00ms: bad\n"] : List String).flatMap
          bytesOf ∧
      after.output = "INFO: Logging initialized. Log file: logs/x_20240102_030405.log\n" ++
        "INFO: Logging initialized. Log file: logs/x_20240102_030405.log\n" ++
        "DEBUG: Verbose mode: True\nDEBUG: Starting f\nINFO: two\n" ++
        "ERROR: Failed f after 2000.00ms: bad\n" := by
  have hends : (performAll withOldLog twoSessions).toOption.isSome = true := by decide +kernel
  rcases hrun : performAll withOldLog twoSessions with cause | after
  · rw [hrun] at hends
    exact absurd hends Bool.false_ne_true
  · obtain ⟨hwrote, -⟩ := performAll_writes_ledger ⟨rfl, rfl, rfl⟩ hrun (by decide +kernel)
    refine ⟨after, rfl, ?_, ?_, ?_⟩
    · rw [hwrote.files]
      decide +kernel
    · rw [hwrote.files]
      decide +kernel
    · rw [hwrote.output]
      decide +kernel

end Host

end SignatureBridge
