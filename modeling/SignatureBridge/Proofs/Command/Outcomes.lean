import SignatureBridge.Proofs.Command.Emission
import SignatureBridge.Proofs.Host.Reports

/-!
# What a run makes of its signatures

From the selection of the signatures to its end a run does three things: it reports the attempts at
the signatures, it emits the text of those that do not fail, and it reports a summary. Here each of
them is said in full. `Run.batchRecords` and `Run.summaryRecords` are the records of the two
reports, made from the signatures that are reached and without the loop. `Host.Reports` says what
such records leave on the output stream and in log files, and `Run.Emitted` where the text is.

Among the records of the attempts the failures can be told by how their messages begin
(`Run.isFailureRecord`). They are the failing signatures in order, each with its cause
(`Run.filter_batchRecords`), because neither a timed activity nor a note on a parameter reads like
one.

`Run.execute_of_signatures` puts the three together. A text that is not emitted leaves the run
without an exit code, and one surrogate in a name is enough for that.
-/

namespace SignatureBridge

open Journal

/-! ### The records of a parameter list -/

namespace Journal

/-- A clock that stands still measures no time. -/
theorem Reading.elapsed_self (n : Int) : elapsed (.whole n) (.whole n) = .ok noTime := by
  rw [elapsed, milliseconds, Int.sub_self, Int.zero_mul]
  decide +kernel

/-- The cause for which a parameter has no declaration counts as a failure of the activity. -/
theorem Activity.closing_of_cause (a : Activity) (time : Text) (cause : ReflectError) :
    a.closing (.ok time) (some ⟨cause.category, cause.message⟩) =
      [a.failed time cause.message] := by
  have hcategory : cause.category ∈
      (["NotImplementedError", "OverflowError", "TypeError", "ValueError"] : List Text) := by
    rcases cause with name | (n | cause)
    · exact List.mem_cons_self
    · exact List.mem_cons_of_mem _ List.mem_cons_self
    · cases cause <;> simp [ReflectError.category, DefaultError.category, NumberError.category]
  generalize cause.category = category at hcategory ⊢
  simp only [List.mem_cons, List.not_mem_nil, or_false] at hcategory
  rcases hcategory with rfl | rfl | rfl | rfl <;> rfl

end Journal

namespace Reflection

/-- The records of a parameter list are notes, and those of an activity that takes no time. -/
theorem mem_listRecords {checkOrder : Bool} {ps : List Parameter} {r : Record}
    (h : r ∈ listRecords checkOrder ps) :
    (∃ n : Note, r = n.record) ∨ ∃ i, r ∈ listActivity.records (.whole 0) (.whole 0) i := by
  rw [listRecords, List.mem_append, List.mem_cons, List.mem_map] at h
  rcases h with (rfl | ⟨n, -, rfl⟩) | h
  · exact .inr ⟨none, List.mem_cons_self⟩
  · exact .inl ⟨n, rfl⟩
  · right
    rw [List.mem_singleton.1 h]
    simp only [Activity.records, Reading.elapsed_self, List.mem_cons]
    rcases Parameter.declarations ps with cause | ds
    · refine ⟨some ⟨cause.category, cause.message⟩, .inr ?_⟩
      rw [Activity.closing_of_cause]
      exact List.mem_cons_self
    · exact ⟨none, .inr List.mem_cons_self⟩

end Reflection

namespace Run

/-! ### The records of a batch -/

/-- The record of a failure, from the name of the function and the cause. -/
def failureRecord (origin : Origin) (failure : Text × ReflectError) : Record :=
  ⟨origin, .error, "[FAILED] " ++ failure.1 ++ ": " ++ failure.2.message⟩

/-- A record reads like that of a failure. -/
def isFailureRecord (r : Record) : Bool := ("[FAILED] " : Text).isPrefixOf r.message

/-- The record of a signature's turn. -/
def turnRecord (origin : Origin) (total index : Nat) (s : Signature) : Record :=
  ⟨origin, .debug, "[" ++ Text.ofNat index ++ "/" ++ Text.ofNat total ++ "] Processing: " ++ s.name⟩

/-- The records of a signature whose turn it is: what reflection reports, and the failure, if it is
one. -/
def signatureRecords (origin : Origin) (checkOrder : Bool) (total index : Nat) (s : Signature) :
    List Record :=
  turnRecord origin total index s :: s.records checkOrder ++
    (Batch.failing [s]).map (failureRecord origin)

/-- The records of the attempts at the signatures that were reached. -/
def batchRecords (entry : EntryPoint) (p : Prepared) (reached : List Signature) : List Record :=
  ⟨entry.origin, .info, "Reflecting " ++ Text.ofNat p.signatures.length ++ " function(s)"⟩ ::
    (reached.zipIdx 1).flatMap fun (s, index) ↦
      signatureRecords entry.origin p.tuning.checkOrder p.signatures.length index s

variable {entry : EntryPoint} {p : Prepared} {reached : List Signature} {host after : Host}

theorem attemptRecords_of {s : Signature} (hs : s.FailsAsExpected) (origin : Origin)
    (checkOrder : Bool) (index total : Nat) :
    attemptRecords origin checkOrder index total (.of s) =
      signatureRecords origin checkOrder total index s := by
  rw [attemptRecords, signatureRecords, Batch.failing]
  dsimp only [Attempt.of]
  rcases hreflect : s.reflect with cause | line
  · simp [hreflect, hs cause hreflect, failureRecord, turnRecord]
  · simp [hreflect, turnRecord]

/-- An attempt is reported, and a trace of it changes no more than the error stream. -/
theorem reports_reportAttempt {s : Signature} (hs : s.FailsAsExpected) (origin : Origin)
    (checkOrder verbose : Bool) (total index : Nat) (host : Host) :
    host.Reports (signatureRecords origin checkOrder total index s)
      (reportAttempt origin checkOrder verbose total index (.of s) host) := by
  have hreports := Host.reports_logAll (signatureRecords origin checkOrder total index s) host
  rw [reportAttempt, attemptRecords_of hs]
  split
  · exact hreports
  · split
    · exact hreports.complain _
    · exact hreports

theorem reports_reportAttempts (origin : Origin) (checkOrder verbose : Bool) (total : Nat) :
    ∀ {ss : List Signature}, (∀ s ∈ ss, s.FailsAsExpected) → ∀ (index : Nat) (host : Host),
      host.Reports
        ((ss.zipIdx index).flatMap fun (s, i) ↦ signatureRecords origin checkOrder total i s)
        (reportAttempts origin checkOrder verbose total index (ss.map .of) host) := by
  intro ss
  induction ss with
  | nil => exact fun _ _ host ↦ .refl host
  | cons s ss ih =>
    intro hss index host
    have hfirst := reports_reportAttempt (hss s List.mem_cons_self) origin checkOrder verbose total
      index host
    exact hfirst.trans (ih (fun t ht ↦ hss t (List.mem_cons_of_mem s ht)) (index + 1) _)

/-- **The attempts are reported by their records**, and nothing else changes but the error
stream. -/
theorem reports_recorded (hss : ∀ s ∈ reached, s.FailsAsExpected) (entry : EntryPoint)
    (p : Prepared) (host : Host) :
    host.Reports (batchRecords entry p reached) (recorded entry p reached host) :=
  (Host.reports_log _ host).trans (reports_reportAttempts _ _ _ _ hss 1 _)

/-! ### Reports of failures -/

/-- A timed activity does not report like a failing signature. -/
theorem not_isFailureRecord_of_mem_records {a : Activity} {start stop : Reading}
    {i : Option Interruption} : ∀ r ∈ a.records start stop i, isFailureRecord r = false := by
  intro r hr
  rcases List.mem_cons.1 hr with rfl | hr
  · rfl
  · generalize Reading.elapsed start stop = time at hr
    rcases time with cause | elapsed
    · exact absurd hr List.not_mem_nil
    · rcases i with - | interruption
      · rw [List.mem_singleton.1 hr]
        rfl
      · rw [Activity.closing] at hr
        split at hr
        · rw [List.mem_singleton.1 hr]
          rfl
        · exact absurd hr List.not_mem_nil

theorem not_isFailureRecord_note (n : Reflection.Note) : isFailureRecord n.record = false := by
  cases n <;> rfl

theorem not_isFailureRecord_of_mem_signature {checkOrder : Bool} {s : Signature} :
    ∀ r ∈ s.records checkOrder, isFailureRecord r = false := by
  intro r hr
  rcases Reflection.mem_listRecords hr with ⟨n, rfl⟩ | ⟨i, hi⟩
  · exact not_isFailureRecord_note n
  · exact not_isFailureRecord_of_mem_records r hi

/-- The turn of a signature is told by a number, and a failure by a letter. -/
theorem not_isFailureRecord_turn (origin : Origin) (total index : Nat) (s : Signature) :
    isFailureRecord (turnRecord origin total index s) = false := by
  obtain ⟨d, ds, hdigits⟩ := List.exists_cons_of_ne_nil (digits_ne_nil 10 index)
  have hd : d < 10 := lt_of_mem_digits (by omega) (hdigits ▸ List.mem_cons_self)
  have hne : ∀ d < 10, (70 : CodePoint) ≠ digitSmall d := by decide
  have hbracket : ("[" : Text) = [91] := by decide
  have hmark : ("[FAILED] " : Text) = 91 :: 70 :: "AILED] " := by decide
  rw [isFailureRecord, turnRecord, Text.ofNat, hdigits, hbracket, hmark]
  simp only [List.map_cons, List.cons_append, List.nil_append, List.append_assoc,
    List.isPrefixOf_cons_cons, beq_eq_false_iff_ne.2 (hne d hd), Bool.false_and, Bool.and_false]

theorem isFailureRecord_failureRecord (origin : Origin) (failure : Text × ReflectError) :
    isFailureRecord (failureRecord origin failure) = true := rfl

theorem filter_signatureRecords (origin : Origin) (checkOrder : Bool) (total index : Nat)
    (s : Signature) :
    (signatureRecords origin checkOrder total index s).filter isFailureRecord =
      (Batch.failing [s]).map (failureRecord origin) := by
  have hnotes : (s.records checkOrder).filter isFailureRecord = [] := by
    rw [List.filter_eq_nil_iff]
    intro r hr
    rw [not_isFailureRecord_of_mem_signature r hr]
    exact Bool.false_ne_true
  rw [signatureRecords, List.cons_append,
    List.filter_cons_of_neg (by rw [not_isFailureRecord_turn]; exact Bool.false_ne_true),
    List.filter_append, hnotes, List.nil_append, List.filter_eq_self]
  intro r hr
  obtain ⟨failure, -, rfl⟩ := List.mem_map.1 hr
  exact isFailureRecord_failureRecord origin failure

/-- **The failures that are reported are the signatures that fail**, in order. -/
theorem filter_batchRecords (entry : EntryPoint) (p : Prepared) (reached : List Signature) :
    (batchRecords entry p reached).filter isFailureRecord =
      (Batch.failing reached).map (failureRecord entry.origin) := by
  have hall : ∀ (ss : List Signature) (index : Nat),
      ((ss.zipIdx index).flatMap fun (s, i) ↦ signatureRecords entry.origin p.tuning.checkOrder
        p.signatures.length i s).filter isFailureRecord =
          (Batch.failing ss).map (failureRecord entry.origin) := by
    intro ss
    induction ss with
    | nil => exact fun _ ↦ rfl
    | cons s ss ih =>
      intro index
      rw [List.zipIdx_cons, List.flatMap_cons, List.filter_append, filter_signatureRecords, ih,
        ← List.map_append, Batch.failing, Batch.failing, ← List.filterMap_append]
      rfl
  exact hall reached 1

/-! ### The text and the end of a run -/

/-- Where a run leaves its text. On the output stream it stands between the reports on the attempts
and those of the summary. In the output file it is all there is, unless the file is a log file
too. -/
structure LeavesText (entry : EntryPoint) (p : Prepared) (reached : List Signature)
    (after final : Host) : Prop where
  stream : p.arguments.toOutput = true → final.output = after.output ++
    (batchRecords entry p reached).flatMap after.routing.shown ++ Batch.text reached ++
      (summaryRecords entry p reached).flatMap after.routing.shown
  file : p.arguments.toOutput = false → ∃ directory, p.config.outputDir.path = .ok directory ∧
    let output := ((Tuning.ofEnvironment after.environment).outputFile p.config.signatureFile
      directory).target after.workingDirectory
    .file output ∉ after.routing.channels → final.files.get? output =
      some (.file ((Batch.text reached).flatMap Utf8.encodePoint))

theorem leavesText_of_emitted {attempted written final : Host}
    (hattempts : after.Reports (batchRecords entry p reached) attempted)
    (hemitted : Emitted entry.origin p.arguments p.config (Batch.text reached) attempted written)
    (hsummary : written.Reports (summaryRecords entry p reached) final) :
    LeavesText entry p reached after final := by
  obtain ⟨-, hemitted⟩ := hemitted
  constructor
  · intro hstdout
    rw [if_pos hstdout] at hemitted
    subst hemitted
    rw [hsummary.output, hattempts.sameSetting.routing, hattempts.output]
  · intro hfile
    rw [if_neg (by rw [hfile]; exact Bool.false_ne_true)] at hemitted
    obtain ⟨directory, files, l, hdirectory, -, hopen, rfl⟩ := hemitted
    have hsame := hattempts.sameSetting
    obtain ⟨hresolve, hplace⟩ := FileSystem.openForWriting_eq_ok hopen
    refine ⟨directory, hdirectory, ?_⟩
    rw [← hsame.environment, ← hsame.workingDirectory, (FileSystem.resolve_eq_ok hresolve).1,
      ← hsame.routing]
    intro output hl
    have hreports := (Host.reports_log _ _).trans hsummary
    rw [hreports.get?_of_not_mem hl, FileSystem.get?_put files hplace.ne_nil, if_pos rfl]

/-- **What a batch comes to in a run.** Let signatures have been loaded from a document and
selected; there is at least one. The run reports the attempts at those that it reaches, and the
failures in this report are the signatures among them that fail, in order and with their causes. If
the text of the others is emitted, the run reports the summary, leaves the text as it is, and has
exit code 0 or 1 as none or some of the reached signatures fail. If not, a failure ends the run; so
it does if the text holds a surrogate, which it does exactly if the name of a function or parameter
does where reflection did not fail. Unless the run stops at a failure it reaches every signature, so
that the two counts add up, and the text of some signatures does not depend on the others. -/
theorem execute_of_signatures {words : List Text}
    (h : prepare entry words (host.begin (activity entry)) = (.ok p, after)) :
    let reached := Batch.reached p.tuning.failFast p.signatures
    let text := Batch.text reached
    p.signatures ≠ [] ∧ IsSelected p.arguments.functions p.signatures ∧
      (batchRecords entry p reached).filter isFailureRecord =
        (Batch.failing reached).map (failureRecord entry.origin) ∧
      (∃ attempted, after.Reports (batchRecords entry p reached) attempted ∧
        (∀ written, Emitted entry.origin p.arguments p.config text attempted written →
          ∃ final, written.Reports (summaryRecords entry p reached) final ∧
            LeavesText entry p reached after final ∧
            execute entry words host =
              (.exit (if reached.any Signature.fails then 1 else 0), final)) ∧
        ((¬ ∃ written, Emitted entry.origin p.arguments p.config text attempted written) →
          ∃ cause stopped, execute entry words host = (.raised cause, stopped))) ∧
      (text.hasSurrogate = true ↔ ∃ s ∈ reached, s.fails = false ∧ s.hasSurrogate = true) ∧
      (p.tuning.failFast = false →
        reached.countP (!·.fails) + reached.countP Signature.fails = p.signatures.length ∧
        ∀ xs ys zs, p.signatures = xs ++ (ys ++ zs) →
          text = Batch.text xs ++ (Batch.text ys ++ Batch.text zs)) := by
  intro reached text
  obtain ⟨hne, hselected⟩ := isSelected_of_prepare h
  have hexpected : ∀ s ∈ reached, s.FailsAsExpected := fun s hs ↦
    (hselected.isLoadable s (Batch.mem_of_mem_reached s hs)).failsAsExpected
  have hattempts := reports_recorded hexpected entry p after
  refine ⟨hne, hselected, filter_batchRecords entry p reached,
    ⟨_, hattempts, fun written hwritten ↦ ?_, execute_of_not_emitted h rfl⟩,
    Batch.hasSurrogate_text_iff, fun hfast ↦ ?_⟩
  · have hsummary := Host.reports_logAll (summaryRecords entry p reached) written
    exact ⟨_, hsummary, leavesText_of_emitted hattempts hwritten hsummary,
      execute_of_emit h rfl (emit_eq_ok_iff.2 hwritten)⟩
  · have hall : reached = p.signatures := Batch.reached_eq_self hfast p.signatures
    refine ⟨by rw [hall, Batch.countP_add_countP], fun xs ys zs hsplit ↦ ?_⟩
    rw [show text = Batch.text reached from rfl, hall, hsplit, Batch.text_append,
      Batch.text_append]

/-- What is wrong with the second of the three functions. -/
def threeFunctionsCause : Text := "Integer default 9223372036854775808 does not fit in a C# long"

/-- What the run of the three functions adds to the output stream from their selection on. -/
def threeFunctionsLines : List Text := [
  "INFO: Reflecting 3 function(s)",
  "ERROR: Failed ArgumentReflection.parameter_list_syntax after 0.00ms: " ++ threeFunctionsCause,
  "ERROR: [FAILED] g: " ++ threeFunctionsCause,
  "f()",
  "h()",
  Text.ofString "INFO: " ++ List.replicate 70 61,
  "INFO: REFLECTION SUMMARY",
  Text.ofString "INFO: " ++ List.replicate 70 61,
  "INFO: Total functions: 3",
  "INFO: Successfully reflected: 2",
  "INFO: Failed: 1",
  "INFO: Failed functions:",
  "INFO:   - g: " ++ threeFunctionsCause]

/-- One of three functions fails: its failure is reported, the others have their text between the
reports, and the exit code is 1. -/
theorem execute_threeFunctions :
    ∃ p after final,
      prepare {} ["s.json", "--stdout"] (threeFunctions.begin (activity {})) = (.ok p, after) ∧
      p.signatures.map Signature.name = (["f", "g", "h"] : List Text) ∧
      (batchRecords {} p p.signatures).filter isFailureRecord =
        [⟨.command, .error, "[FAILED] g: " ++ threeFunctionsCause⟩] ∧
      execute {} ["s.json", "--stdout"] threeFunctions = (.exit 1, final) ∧
      final.output = after.output ++ Text.lines threeFunctionsLines := by
  let settled : Prepared → Host → Bool := fun p after ↦
    !p.tuning.failFast && p.arguments.toOutput && !(Batch.text p.signatures).hasSurrogate &&
    decide (p.signatures.map Signature.name = (["f", "g", "h"] : List Text)) &&
    p.signatures.any Signature.fails &&
    decide ((Batch.failing p.signatures).map (failureRecord .command) =
      [⟨.command, .error, "[FAILED] g: " ++ threeFunctionsCause⟩]) &&
    decide ((batchRecords {} p p.signatures).flatMap after.routing.shown ++
      (Batch.text p.signatures ++ (summaryRecords {} p p.signatures).flatMap after.routing.shown) =
        Text.lines threeFunctionsLines)
  have hsettled : (match prepare {} ["s.json", "--stdout"] (threeFunctions.begin (activity {}))
      with
      | (.ok p, after) => settled p after
      | (.error _, _) => false) = true := by decide +kernel
  rcases hprepare : prepare {} ["s.json", "--stdout"] (threeFunctions.begin (activity {})) with
    ⟨_ | p, after⟩
  · rw [hprepare] at hsettled
    exact absurd hsettled Bool.false_ne_true
  · rw [hprepare] at hsettled
    simp only [settled, Bool.and_eq_true, Bool.not_eq_true', decide_eq_true_eq] at hsettled
    obtain ⟨⟨⟨⟨⟨⟨hfast, hstdout⟩, hclear⟩, hnames⟩, hfails⟩, hfailing⟩, hlines⟩ := hsettled
    obtain ⟨-, -, hfailures, ⟨attempted, -, hexit, -⟩, -⟩ := execute_of_signatures hprepare
    rw [Batch.reached_eq_self hfast] at hfailures hexit
    obtain ⟨final, -, hleaves, hexecute⟩ := hexit _ ⟨hclear, by rw [if_pos hstdout]⟩
    rw [hfails] at hexecute
    refine ⟨p, after, final, rfl, hnames, hfailures.trans hfailing, hexecute, ?_⟩
    rw [hleaves.stream hstdout, List.append_assoc, List.append_assoc, hlines]

/-- The one function of the file is selected and does not fail, and the run ends without an exit
code and with an empty output file. -/
theorem batch_raises_on_surrogate :
    ∃ p after, prepare {} ["s.json", "--function", "f"] (onlySurrogate.begin (activity {})) =
        (.ok p, after) ∧
      p.signatures.map Signature.name = (["f"] : List Text) ∧
      (∀ s ∈ p.signatures, s.fails = false) ∧ Batch.text p.signatures ≠ [] ∧
      ∃ cause stopped, execute {} ["s.json", "--function", "f"] onlySurrogate =
          (.raised (.unencodable cause), stopped) ∧
        stopped.files.get? ["output", "s.params.cs"] = some (.file []) := by
  have hsettled : (prepare {} ["s.json", "--function", "f"]
      (onlySurrogate.begin (activity {}))).1.toOption.any (fun p ↦
        decide (p.signatures.map Signature.name = (["f"] : List Text)) &&
        p.signatures.all (!·.fails) && !(Batch.text p.signatures).isEmpty) = true := by
    decide +kernel
  rcases hprepare : prepare {} ["s.json", "--function", "f"]
    (onlySurrogate.begin (activity {})) with ⟨_ | p, after⟩
  · rw [hprepare] at hsettled
    exact absurd hsettled Bool.false_ne_true
  · rw [hprepare] at hsettled
    simp only [Except.toOption, Option.any_some, Bool.and_eq_true, Bool.not_eq_true',
      List.all_eq_true, decide_eq_true_eq, List.isEmpty_eq_false_iff] at hsettled
    obtain ⟨⟨hnames, hclear⟩, htext⟩ := hsettled
    exact ⟨p, after, rfl, hnames, hclear, htext, _, execute_onlySurrogate⟩

end Run

end SignatureBridge
