import SignatureBridge.Command.Run
import SignatureBridge.Proofs.Command.Batching

/-!
# The course of a run

A run first settles what it needs (`Run.prepare`): arguments, settings, logging, and the signatures
that were loaded and selected. What comes then is a matter of the signatures alone, up to how the
host takes the text. `Run.proceed_apply` says it without the batch and its attempts: the records of
the signatures that are reached, the emission of their text, the summary and the exit code.
`Run.execute_of_emit` and `Run.execute_of_emit_error` put the two parts together.

That nothing else can stop a run in between rests on where the signatures come from
(`Run.isSelected_of_prepare`). They were decoded from a value that was read under the limit on
digits, so they fail only in the way that the batch takes note of.
-/

namespace SignatureBridge

/-! ### Steps one after the other -/

namespace Action

variable {α β : Type}

theorem bind_apply (x : Action α) (f : α → Action β) (host : Host) :
    (x >>= f) host =
      match x host with
      | (.ok a, after) => f a after
      | (.error e, after) => (.error e, after) := by
  show ExceptT.bindCont f (x host).1 (x host).2 = _
  rcases x host with ⟨_ | a, after⟩ <;> rfl

theorem bind_eq_error {x : Action α} {f : α → Action β} {host after : Host} {e : Ending}
    (h : (x >>= f) host = (.error e, after)) :
    x host = (.error e, after) ∨
      ∃ a between, x host = (.ok a, between) ∧ f a between = (.error e, after) := by
  rw [bind_apply] at h
  generalize x host = outcome at h ⊢
  rcases outcome with ⟨_ | a, between⟩
  · cases h
    exact .inl rfl
  · exact .inr ⟨a, between, rfl, h⟩

theorem bind_eq_ok_iff {x : Action α} {f : α → Action β} {host after : Host} {b : β} :
    (x >>= f) host = (.ok b, after) ↔
      ∃ a between, x host = (.ok a, between) ∧ f a between = (.ok b, after) := by
  rw [bind_apply]
  rcases x host with ⟨_ | a, between⟩
  · exact ⟨(nomatch ·), fun ⟨_, _, h, _⟩ ↦ nomatch h⟩
  · exact ⟨fun h ↦ ⟨a, between, rfl, h⟩, fun ⟨_, _, h, hf⟩ ↦ by cases h; exact hf⟩

end Action

/-- What a run has settled before it reflects. -/
structure Prepared where
  arguments : Arguments
  tuning : Tuning
  config : Config
  signatures : List Signature

namespace Run

/-- The steps of a run up to the selection of the signatures. -/
def prepare (entry : EntryPoint) (words : List Text) : Action Prepared := do
  let arguments ← readArguments entry words
  let tuning := Tuning.ofEnvironment (← getThe Host).environment
  let config ← configure arguments
  startLogging entry.origin config tuning
  let loaded ← loadSignatures entry.origin config.signatureFile
  let signatures ← selectSignatures entry.origin arguments.functions loaded
  return { arguments, tuning, config, signatures }

/-- The steps of a run from the selection of the signatures on. -/
def proceed (entry : EntryPoint) (p : Prepared) : Action Nat := do
  let attempts ← reflectAll entry.origin p.tuning p.config.verbose p.signatures
  emit entry.origin p.arguments p.config (Batch.output attempts)
  change (·.logAll ((summary p.signatures.length attempts).map fun line ↦
    ⟨entry.origin, .info, line⟩))
  return exitCode attempts

theorem steps_eq (entry : EntryPoint) (words : List Text) :
    steps entry words = prepare entry words >>= proceed entry := by
  simp only [steps, prepare, proceed, bind_assoc, pure_bind]

/-! ### What has been settled -/

/-- Signatures as they come out of a file and a selection. -/
def IsSelected (list : Option Text) (ss : List Signature) : Prop :=
  ∃ d loaded, Json.WithinLimit d ∧ Document.decode d = .ok loaded ∧
    Batch.selection list loaded = .ok ss

theorem exists_document_of_readAll {p : FilePath} {bytes : List UInt8} {loaded : List Signature}
    (h : Signature.readAll p bytes = .ok loaded) :
    ∃ d, Json.WithinLimit d ∧ Document.decode d = .ok loaded := by
  rw [Signature.readAll] at h
  split at h
  · exact absurd h (by simp)
  · split at h
    · exact absurd h (by simp)
    · exact absurd h (by simp)
    · rename_i d hread
      refine ⟨d, Json.withinLimit_of_read hread, ?_⟩
      cases hdecode : Document.decode d with
      | error cause => exact absurd h (by simp [hdecode, Except.mapError])
      | ok signatures => simpa [hdecode, Except.mapError] using h

theorem exists_readAll_of_signatures {p : FilePath} {host : Host} {loaded : List Signature}
    (h : host.signatures p = .ok loaded) : ∃ bytes, Signature.readAll p bytes = .ok loaded := by
  rw [Host.signatures] at h
  split at h
  · exact absurd h (by simp)
  · exact ⟨_, h⟩

theorem failWith_ne_ok {α : Type} {origin : Journal.Origin} {report : Text} {host after : Host}
    {a : α} : failWith origin report host ≠ (.ok a, after) := by
  intro h
  obtain ⟨_, _, _, hthrow⟩ := Action.bind_eq_ok_iff.1 h
  cases hthrow

theorem signatures_of_loadSignatures {origin : Journal.Origin} {p : FilePath}
    {host after : Host} {loaded : List Signature}
    (h : loadSignatures origin p host = (.ok loaded, after)) :
    host.signatures p = .ok loaded := by
  obtain ⟨_, _, hget, h⟩ := Action.bind_eq_ok_iff.1 h
  cases hget
  obtain ⟨_, between, _, h⟩ := Action.bind_eq_ok_iff.1 h
  generalize host.signatures p = outcome at h ⊢
  cases outcome with
  | ok signatures =>
    cases h
    rfl
  | error cause => exact absurd h failWith_ne_ok

theorem selection_of_selectSignatures {origin : Journal.Origin} {list : Option Text}
    {loaded ss : List Signature} {host after : Host}
    (h : selectSignatures origin list loaded host = (.ok ss, after)) :
    ss ≠ [] ∧ Batch.selection list loaded = .ok ss := by
  unfold selectSignatures at h
  generalize Batch.selection list loaded = outcome at h ⊢
  rcases outcome with unknown | - | ⟨s, rest⟩
  · exact absurd h failWith_ne_ok
  · exact absurd h failWith_ne_ok
  · cases h
    exact ⟨List.cons_ne_nil s rest, rfl⟩

/-- **What is reflected was loaded and selected**, and is not empty. -/
theorem isSelected_of_prepare {entry : EntryPoint} {words : List Text} {host after : Host}
    {p : Prepared} (h : prepare entry words host = (.ok p, after)) :
    p.signatures ≠ [] ∧ IsSelected p.arguments.functions p.signatures := by
  simp only [prepare, Action.bind_eq_ok_iff] at h
  obtain ⟨arguments, h₁, -, env, h₂, -, config, h₃, -, _, h₄, -, loaded, h₅, hload, ss, h₆, hselect,
    hok⟩ := h
  cases hok
  obtain ⟨bytes, hread⟩ := exists_readAll_of_signatures (signatures_of_loadSignatures hload)
  obtain ⟨d, hlimit, hdecode⟩ := exists_document_of_readAll hread
  obtain ⟨hne, hselection⟩ := selection_of_selectSignatures hselect
  exact ⟨hne, d, loaded, hlimit, hdecode, hselection⟩

theorem IsSelected.isLoadable {list : Option Text} {ss : List Signature}
    (h : IsSelected list ss) : ∀ s ∈ ss, s.IsLoadable := by
  obtain ⟨d, loaded, hlimit, hdecode, hselection⟩ := h
  intro s hs
  exact Document.isLoadable_of_decode hlimit hdecode s (Batch.mem_of_selection hselection s hs)

/-! ### From the selection to the end -/

/-- The host once the attempts at the signatures that were reached are recorded. -/
def recorded (entry : EntryPoint) (p : Prepared) (reached : List Signature) (host : Host) : Host :=
  reportAttempts entry.origin p.tuning.checkOrder p.config.verbose p.signatures.length 1
    (reached.map .of)
    (host.log ⟨entry.origin, .info,
      "Reflecting " ++ Text.ofNat p.signatures.length ++ " function(s)"⟩)

/-- The lines of the summary, from the number of all signatures and those that were reached. -/
def summaryLines (total : Nat) (reached : List Signature) : List Text :=
  let rule : Text := List.replicate 70 61
  let failed : List Text :=
    match Batch.failing reached with
    | [] => []
    | _ => ("Failed functions:" : Text) :: (Batch.failing reached).map fun (name, cause) ↦
        "  - " ++ name ++ ": " ++ cause.message
  [rule, ("REFLECTION SUMMARY" : Text), rule,
    "Total functions: " ++ Text.ofNat total,
    "Successfully reflected: " ++ Text.ofNat (reached.countP (!·.fails)),
    "Failed: " ++ Text.ofNat (reached.countP Signature.fails)] ++ failed

theorem summary_map_of (total : Nat) (reached : List Signature) :
    summary total (reached.map .of) = summaryLines total reached := by
  cases hfailing : Batch.failing reached <;>
    simp only [summary, summaryLines, Batch.failures_map_of, Batch.length_outputLines_map_of,
      ← Batch.length_failing, hfailing]

theorem exitCode_map_of (reached : List Signature) :
    exitCode (reached.map .of) = if reached.any Signature.fails then 1 else 0 := by
  rw [exitCode, Batch.failures_map_of]
  simp only [Batch.failing_eq_nil_iff]
  cases reached.any Signature.fails <;> rfl

theorem reflectAll_apply {entry : EntryPoint} {p : Prepared}
    (hss : ∀ s ∈ p.signatures, s.FailsAsExpected) (host : Host) :
    reflectAll entry.origin p.tuning p.config.verbose p.signatures host =
      (.ok ((Batch.reached p.tuning.failFast p.signatures).map .of),
        recorded entry p (Batch.reached p.tuning.failFast p.signatures) host) := by
  have hfatal : Batch.fatal? ((Batch.reached p.tuning.failFast p.signatures).map .of) = none :=
    Batch.fatal?_map_of fun s hs ↦ hss s (Batch.mem_of_mem_reached s hs)
  simp only [reflectAll, Batch.attempts_eq hss, hfatal]
  rfl

/-- The records of the summary. -/
def summaryRecords (entry : EntryPoint) (p : Prepared) (reached : List Signature) :
    List Journal.Record :=
  (summaryLines p.signatures.length reached).map fun line ↦ ⟨entry.origin, .info, line⟩

/-- **From the selection on, a run is settled by the signatures that it reaches.** -/
theorem proceed_apply {entry : EntryPoint} {p : Prepared}
    (hss : ∀ s ∈ p.signatures, s.FailsAsExpected) (host : Host) :
    let reached := Batch.reached p.tuning.failFast p.signatures
    proceed entry p host =
      match emit entry.origin p.arguments p.config (Batch.text reached)
        (recorded entry p reached host) with
      | (.ok (), written) => (.ok (if reached.any Signature.fails then 1 else 0),
          written.logAll (summaryRecords entry p reached))
      | (.error e, stopped) => (.error e, stopped) := by
  intro reached
  simp only [proceed, Action.bind_apply, reflectAll_apply hss, Batch.output_map_of,
    summary_map_of, exitCode_map_of]
  rcases emit entry.origin p.arguments p.config (Batch.text reached)
    (recorded entry p reached host) with ⟨_ | _, _⟩ <;> rfl

/-- A step on the host ends a run only with a failure. -/
theorem exists_raised_of_attempt {ε α : Type} {asFailure : ε → Failure}
    {f : Host → Except ε α × Host} {host after : Host} {e : Ending}
    (h : attempt asFailure f host = (.error e, after)) : ∃ cause, e = .raised cause := by
  unfold attempt at h
  rcases Action.bind_eq_error h with hget | ⟨_, _, hget, h⟩
  · cases hget
  · cases hget
    rcases Action.bind_eq_error h with hset | ⟨_, _, _, h⟩
    · cases hset
    · generalize (f host).1 = outcome at h
      cases outcome with
      | ok a => cases h
      | error cause =>
        cases h
        exact ⟨_, rfl⟩

/-- Emission ends a run only with a failure. -/
theorem exists_raised_of_emit {origin : Journal.Origin} {a : Arguments} {c : Config} {t : Text}
    {host after : Host} {e : Ending} (h : emit origin a c t host = (.error e, after)) :
    ∃ cause, e = .raised cause := by
  rw [emit] at h
  by_cases houtput : a.toOutput = true
  · rw [if_pos houtput] at h
    exact exists_raised_of_attempt h
  · rw [if_neg houtput, writeOutput] at h
    rcases Action.bind_eq_error h with hdirectory | ⟨_, _, _, h⟩
    · exact exists_raised_of_attempt hdirectory
    · rcases Action.bind_eq_error h with hget | ⟨_, _, _, h⟩
      · cases hget
      · rcases Action.bind_eq_error h with hwrite | ⟨_, _, _, h⟩
        · exact exists_raised_of_attempt hwrite
        · cases h

section

variable {entry : EntryPoint} {words : List Text} {host after : Host} {p : Prepared}
  {reached : List Signature}
  (h : prepare entry words (host.begin (activity entry)) = (.ok p, after))
  (hreached : Batch.reached p.tuning.failFast p.signatures = reached)
include h hreached

theorem steps_of_prepare :
    steps entry words (host.begin (activity entry)) =
      match emit entry.origin p.arguments p.config (Batch.text reached)
        (recorded entry p reached after) with
      | (.ok (), written) => (.ok (if reached.any Signature.fails then 1 else 0),
          written.logAll (summaryRecords entry p reached))
      | (.error e, stopped) => (.error e, stopped) := by
  have hloadable := (isSelected_of_prepare h).2.isLoadable
  rw [steps_eq, Action.bind_apply, h, ← hreached]
  exact proceed_apply (fun s hs ↦ (hloadable s hs).failsAsExpected) after

/-- After the text of the signatures is emitted, the exit code says whether one of those that were
reached has failed. -/
theorem execute_of_emit {written : Host}
    (hemit : emit entry.origin p.arguments p.config (Batch.text reached)
      (recorded entry p reached after) = (.ok (), written)) :
    execute entry words host = (.exit (if reached.any Signature.fails then 1 else 0),
      written.logAll (summaryRecords entry p reached)) := by
  have hsteps := steps_of_prepare h hreached
  rw [hemit] at hsteps
  rw [execute, hsteps]

/-- A failure to emit the text ends the run. -/
theorem execute_of_emit_error {stopped : Host} {e : Ending}
    (hemit : emit entry.origin p.arguments p.config (Batch.text reached)
      (recorded entry p reached after) = (.error e, stopped)) :
    ∃ cause, e = .raised cause ∧ execute entry words host =
      (.raised cause, stopped.abandon (activity entry) Journal.noTime cause.message) := by
  obtain ⟨cause, rfl⟩ := exists_raised_of_emit hemit
  have hsteps := steps_of_prepare h hreached
  rw [hemit] at hsteps
  exact ⟨cause, rfl, by rw [execute, hsteps]⟩

end

/-- A run that ends while it is prepared ends the same way as a whole. -/
theorem execute_of_prepare_eq_exit {entry : EntryPoint} {words : List Text} {host stopped : Host}
    {code : Nat}
    (h : prepare entry words (host.begin (activity entry)) = (.error (.exit code), stopped)) :
    execute entry words host = (.exit code, stopped) := by
  rw [execute, steps_eq, Action.bind_apply, h]

/-- A failure that ends a run while it is prepared is recorded. -/
theorem execute_of_prepare_eq_raised {entry : EntryPoint} {words : List Text} {host stopped : Host}
    {cause : Failure}
    (h : prepare entry words (host.begin (activity entry)) = (.error (.raised cause), stopped)) :
    execute entry words host =
      (.raised cause, stopped.abandon (activity entry) Journal.noTime cause.message) := by
  rw [execute, steps_eq, Action.bind_apply, h]

end Run

end SignatureBridge
