import SignatureBridge.Proofs.Command.Emission
import SignatureBridge.Proofs.Text.Delimited

/-!
# Runs of selected functions

A list of names on the command line selects some of the functions that a run has loaded. Here such a
run is compared with the run without a list, and with those whose lists name the same functions.

The comparison starts where the arguments have been read. Loading looks at the arguments only for
settings, so runs that differ in the list load the same and come to the same host
(`Run.load_withFunctions`). The selection then stops the run if the list is empty or a name is not
found (`Batch.Finds`), or it leaves the signatures with those names, in the order of the file
(`Run.select_apply`). The text of a selection is that of the file without the lines of the other
functions (`Batch.namedLines_select`), and how a run concludes depends on its signatures alone
(`Run.concludes_of_prepare`).

One thing can come in between: a text that holds a surrogate is not emitted (`Run.emit_eq_ok_iff`).
-/

namespace SignatureBridge

open Journal

/-! ### Lists of names -/

namespace Batch

/-- A list names at least one function, and only functions that there are. -/
def Finds (list : Text) (ss : List Signature) : Prop :=
  names list ≠ [] ∧ ∀ name ∈ names list, ∃ s ∈ ss, s.name = name

theorem not_finds_iff {list : Text} {ss : List Signature} :
    ¬ Finds list ss ↔
      names list = [] ∨ ∃ name ∈ names list, ∀ s ∈ ss, s.name ≠ name := by
  rw [Finds]
  push Not
  rw [imp_iff_not_or, ne_eq, not_not]

/-- Where a function is found there are functions. -/
theorem Finds.ne_nil {list : Text} {ss : List Signature} (h : Finds list ss) : ss ≠ [] := by
  rintro rfl
  obtain ⟨name, hname⟩ := List.exists_mem_of_ne_nil _ h.1
  obtain ⟨s, hs, -⟩ := h.2 name hname
  exact absurd hs List.not_mem_nil

/-- A list that is put together with commas names its pieces, without the blanks around them. So
neither blanks nor the order of the pieces nor their number makes a difference. -/
theorem mem_names_join {pieces : List Text} (h : ∀ piece ∈ pieces, 44 ∉ piece) {name : Text}
    (hname : name ≠ []) :
    name ∈ names (Text.join [44] pieces) ↔ ∃ piece ∈ pieces, piece.trimBlanks = name := by
  rw [names, List.mem_filter, List.mem_map]
  cases pieces with
  | nil =>
    show (∃ piece ∈ Text.split 44 [], Text.trimBlanks piece = name) ∧ _ ↔ _
    simp [Text.split, Text.trimBlanks, Text.trim, Text.trimEnd, Text.trimStart, hname.symm]
  | cons first rest =>
    rw [Text.split_join (List.cons_ne_nil first rest) h]
    simp [hname]

theorem unknownNames_eq_nil_iff {wanted : List Text} {ss : List Signature} :
    unknownNames wanted ss = [] ↔ ∀ name ∈ wanted, ∃ s ∈ ss, s.name = name := by
  simp [unknownNames, List.filter_eq_nil_iff]

theorem select_eq_nil_iff {wanted : List Text} {ss : List Signature} :
    select wanted ss = [] ↔ ∀ s ∈ ss, s.name ∉ wanted := by
  simp [select, List.filter_eq_nil_iff]

/-- The lines of the signatures that do not fail, each with the name of its function. -/
def namedLines (ss : List Signature) : List (Text × Text) :=
  ss.filterMap fun s ↦ (Attempt.of s).line?.map (s.name, ·)

theorem text_eq_lines (ss : List Signature) :
    text ss = Text.lines ((namedLines ss).map Prod.snd) := by
  have hlines : (namedLines ss).map Prod.snd = outputLines (ss.map .of) := by
    rw [namedLines, List.map_filterMap, outputLines, List.filterMap_map]
    simp [Option.map_map, Function.comp_def]
  rw [hlines, ← output_map_of, output]

/-- **The lines of a selection are the lines of its functions.** -/
theorem namedLines_select (wanted : List Text) (ss : List Signature) :
    namedLines (select wanted ss) = (namedLines ss).filter fun line ↦ wanted.contains line.1 := by
  rw [namedLines, namedLines, select, List.filterMap_filter, List.filter_filterMap]
  refine List.filterMap_congr fun s _ ↦ ?_
  rcases (Attempt.of s).line? with - | line
  · simp
  · simp [Option.filter_some]

/-- A list that is not empty selects the functions that it names, or it tells the names that are
not found. -/
theorem selection_some {list : Text} (hlist : list ≠ []) (ss : List Signature) :
    selection (some list) ss =
      match unknownNames (names list) ss with
      | [] => .ok (select (names list) ss)
      | unknown => .error unknown := by
  cases list with
  | nil => exact absurd rfl hlist
  | cons c list => rfl

/-- What is selected depends on which names the list has. -/
theorem select_congr {wanted wanted' : List Text} (h : ∀ name, name ∈ wanted ↔ name ∈ wanted')
    (ss : List Signature) : select wanted ss = select wanted' ss := by
  rw [select, select]
  refine List.filter_congr fun s _ ↦ ?_
  rw [Bool.eq_iff_iff, List.contains_iff_mem, List.contains_iff_mem, h]

/-- Two lists have the same names if the pieces of the one are, without the blanks around them, the
names of the other. -/
theorem mem_names_join_congr {pieces : List Text} {list : Text}
    (hpieces : ∀ piece ∈ pieces, 44 ∉ piece)
    (h : ∀ name ≠ [], (∃ piece ∈ pieces, piece.trimBlanks = name) ↔ name ∈ names list)
    (name : Text) : name ∈ names (Text.join [44] pieces) ↔ name ∈ names list := by
  by_cases hname : name = []
  · simp [names, hname]
  · rw [mem_names_join hpieces hname, h name hname]

theorem finds_congr {list list' : Text} (h : ∀ name, name ∈ names list ↔ name ∈ names list')
    (ss : List Signature) : Finds list ss ↔ Finds list' ss := by
  simp only [Finds, ne_eq, List.eq_nil_iff_forall_not_mem, h]

end Batch

/-- The same with another list of functions, or without one. -/
def Prepared.withFunctions (functions : Option Text) (p : Prepared) : Prepared :=
  { p with arguments := { p.arguments with functions } }

namespace Run

variable {entry : EntryPoint} {a : Arguments} {p : Prepared} {host after : Host}

/-! ### Loading and selecting -/

/-- The steps of a run from the arguments to the loaded signatures. -/
def load (entry : EntryPoint) (a : Arguments) : Action Prepared := do
  let tuning := Tuning.ofEnvironment (← getThe Host).environment
  let config ← configure a
  startLogging entry.origin config tuning
  let signatures ← loadSignatures entry.origin config.signatureFile
  return { arguments := a, tuning, config, signatures }

/-- The selection among loaded signatures. -/
def select (entry : EntryPoint) (p : Prepared) : Action Prepared := do
  let signatures ← selectSignatures entry.origin p.arguments.functions p.signatures
  return { p with signatures }

theorem prepare_eq (entry : EntryPoint) (words : List Text) :
    prepare entry words = readArguments entry words >>= fun a ↦ load entry a >>= select entry := by
  simp only [prepare, load, select, bind_assoc, pure_bind]

/-- Loading passes the list of functions on and does not look at it. -/
theorem load_withFunctions (entry : EntryPoint) (a : Arguments) (functions : Option Text)
    (host : Host) :
    load entry { a with functions } host =
      ((load entry a host).1.map (Prepared.withFunctions functions), (load entry a host).2) := by
  have hconfigure : configure { a with functions } = configure a := rfl
  simp only [load, Action.bind_apply, getThe_apply, hconfigure]
  rcases configure a host with ⟨_ | c, configured⟩
  · rfl
  · dsimp only
    rcases startLogging entry.origin c (Tuning.ofEnvironment host.environment) configured with
      ⟨_ | _, started⟩
    · rfl
    · dsimp only
      rcases loadSignatures entry.origin c.signatureFile started with ⟨_ | _, loaded⟩ <;> rfl

theorem arguments_of_load (h : load entry a host = (.ok p, after)) : p.arguments = a := by
  simp only [load, Action.bind_eq_ok_iff] at h
  obtain ⟨_, _, -, _, _, -, _, _, -, _, _, -, hp⟩ := h
  cases hp
  rfl

/-- After loading, a run is prepared by the selection. -/
theorem prepare_of_load {words : List Text} (hread : Arguments.read words = .ok a)
    (hload : load entry a host = (.ok p, after)) :
    prepare entry words host = select entry p after := by
  have harguments : readArguments entry words host = (.ok a, host) := by
    rw [readArguments, hread]
    rfl
  rw [prepare_eq, Action.bind_apply, harguments]
  dsimp only
  rw [Action.bind_apply, hload]

/-- A run with another list is prepared by its selection from the same signatures. -/
theorem prepare_withFunctions {words : List Text} {functions : Option Text}
    (hload : load entry a host = (.ok p, after))
    (hread : Arguments.read words = .ok { a with functions }) :
    prepare entry words host = select entry (p.withFunctions functions) after := by
  refine prepare_of_load hread ?_
  rw [load_withFunctions, hload]
  rfl

/-- Without a list all functions are selected. -/
theorem select_of_none (hp : p.arguments.functions = none) (hne : p.signatures ≠ [])
    (entry : EntryPoint) (host : Host) : select entry p host = (.ok p, host) := by
  rcases p with ⟨arguments, tuning, config, - | ⟨s, rest⟩⟩
  · exact absurd rfl hne
  · rw [select, Action.bind_apply, hp]
    rfl

/-- The loaded signatures that are selected. -/
def chosen (list : Text) (p : Prepared) : Prepared :=
  { p with signatures := Batch.select (Batch.names list) p.signatures }

/-- **A list selects its functions, or it stops the run**, after a record and with exit code 1. -/
theorem select_apply {list : Text} (hp : p.arguments.functions = some list) (hlist : list ≠ [])
    (entry : EntryPoint) (host : Host) :
    (Batch.Finds list p.signatures → select entry p host = (.ok (chosen list p), host)) ∧
      (¬ Batch.Finds list p.signatures → ∃ report,
        select entry p host = (.error (.exit 1), host.log ⟨entry.origin, .error, report⟩)) := by
  rw [select, Action.bind_apply, hp, selectSignatures, Batch.selection_some hlist, Batch.Finds,
    ← Batch.unknownNames_eq_nil_iff]
  rcases hunknown : Batch.unknownNames (Batch.names list) p.signatures with - | ⟨name, unknown⟩
  · dsimp only
    rcases hselect : Batch.select (Batch.names list) p.signatures with - | ⟨s, rest⟩
    · refine ⟨fun hfinds ↦ absurd hfinds.1 ?_, fun _ ↦ ⟨_, rfl⟩⟩
      -- a name in the list would have selected something
      rw [Batch.unknownNames_eq_nil_iff] at hunknown
      rw [Batch.select_eq_nil_iff] at hselect
      rw [not_ne_iff, List.eq_nil_iff_forall_not_mem]
      intro name hname
      obtain ⟨s, hs, rfl⟩ := hunknown name hname
      exact hselect s hs hname
    · refine ⟨fun _ ↦ ?_, fun hnone ↦ absurd ⟨?_, rfl⟩ hnone⟩
      · rw [chosen, hselect]
        rfl
      · intro hnames
        rw [hnames, Batch.select_eq_nil_iff.2 fun _ _ ↦ List.not_mem_nil] at hselect
        exact absurd hselect (List.cons_ne_nil s rest).symm
  · exact ⟨fun hfinds ↦ absurd hfinds.2 (List.cons_ne_nil name unknown), fun _ ↦ ⟨_, rfl⟩⟩

/-! ### Conclusion -/

/-- How a run ends that reflects all of its signatures. If their text is emitted, the exit code says
whether one of them failed, and otherwise the run has none. -/
structure Concludes (entry : EntryPoint) (words : List Text) (host : Host) (p : Prepared)
    (after : Host) : Prop where
  exit : ∀ written, Emitted entry.origin p.arguments p.config (Batch.text p.signatures)
    (recorded entry p p.signatures after) written →
      execute entry words host = (.exit (if p.signatures.any Signature.fails then 1 else 0),
        written.logAll (summaryRecords entry p p.signatures))
  raised : (¬ ∃ written, Emitted entry.origin p.arguments p.config (Batch.text p.signatures)
    (recorded entry p p.signatures after) written) →
      ∃ cause stopped, execute entry words host = (.raised cause, stopped)

theorem concludes_of_prepare {words : List Text}
    (h : prepare entry words (host.begin (activity entry)) = (.ok p, after))
    (hfast : p.tuning.failFast = false) : Concludes entry words host p after := by
  have hreached := Batch.reached_eq_self hfast p.signatures
  exact ⟨fun written hwritten ↦ execute_of_emit h hreached (emit_eq_ok_iff.2 hwritten),
    execute_of_not_emitted h hreached⟩

/-- The list of functions has done its part once the signatures are selected. -/
theorem execute_congr_of_prepare {words words' : List Text} (functions : Option Text)
    (h : prepare entry words (host.begin (activity entry)) = (.ok p, after))
    (h' : prepare entry words' (host.begin (activity entry)) =
      (.ok (p.withFunctions functions), after)) :
    execute entry words' host = execute entry words host := by
  rw [execute, execute, steps_eq, steps_eq, Action.bind_apply, Action.bind_apply, h, h']
  rfl

/-- **A list of names makes a run of the functions that it names.** Let a run load its signatures,
with a list of names on the command line that is not empty. It stops before it reflects, with exit
code 1 and after one more record, exactly if the list has no name or one that no function has. If
not, it reflects the functions with a name in the list, as often as they are in the file and in its
order. Unless it is to stop at a failure, it then concludes by them alone: if their text is emitted,
the exit code is 0 exactly if none of them fails. The run without the list concludes by all
functions, and the lines of the one are those of the other under the names in the list. The text
cannot be emitted if it holds a surrogate, and it does exactly if the name of a function or
parameter does where reflection did not fail. A list whose pieces are the same names, in any order
and number and with any blanks around them, ends the run the same way, and leaves the same host
unless the run stops. -/
theorem execute_of_functions {words : List Text} {list : Text} {loaded : Prepared}
    (hread : Arguments.read words = .ok a) (hfunctions : a.functions = some list)
    (hlist : list ≠ []) (hload : load entry a (host.begin (activity entry)) = (.ok loaded, after)) :
    ((∃ stopped, prepare entry words (host.begin (activity entry)) = (.error (.exit 1), stopped)) ↔
      Batch.names list = [] ∨ ∃ name ∈ Batch.names list, ∀ s ∈ loaded.signatures, s.name ≠ name) ∧
    (¬ Batch.Finds list loaded.signatures → ∃ report,
      execute entry words host = (.exit 1, after.log ⟨entry.origin, .error, report⟩)) ∧
    (Batch.Finds list loaded.signatures →
      prepare entry words (host.begin (activity entry)) = (.ok (chosen list loaded), after) ∧
      (loaded.tuning.failFast = false →
        Concludes entry words host (chosen list loaded) after ∧
        ((Batch.text (chosen list loaded).signatures).hasSurrogate = true ↔
          ∃ s ∈ (chosen list loaded).signatures, s.fails = false ∧ s.hasSurrogate = true) ∧
        Batch.text loaded.signatures =
          Text.lines ((Batch.namedLines loaded.signatures).map Prod.snd) ∧
        Batch.text (chosen list loaded).signatures =
          Text.lines (((Batch.namedLines loaded.signatures).filter fun line ↦
            (Batch.names list).contains line.1).map Prod.snd) ∧
        ∀ words', Arguments.read words' = .ok { a with functions := none } →
          Concludes entry words' host (loaded.withFunctions none) after)) ∧
    ∀ words' pieces, (∀ piece ∈ pieces, 44 ∉ piece) → Text.join [44] pieces ≠ [] →
      Arguments.read words' = .ok { a with functions := some (Text.join [44] pieces) } →
      (∀ name ≠ [], (∃ piece ∈ pieces, piece.trimBlanks = name) ↔ name ∈ Batch.names list) →
        (execute entry words' host).1 = (execute entry words host).1 ∧
        (Batch.Finds list loaded.signatures →
          execute entry words' host = execute entry words host) := by
  have harguments : loaded.arguments = a := arguments_of_load hload
  have hprepare := prepare_of_load hread hload
  obtain ⟨hchosen, hstop⟩ := select_apply (harguments ▸ hfunctions) hlist entry after
  rw [← hprepare] at hchosen hstop
  refine ⟨?_, fun hnot ↦ ?_, fun hfinds ↦ ⟨hchosen hfinds, fun hfast ↦ ⟨?_, ?_, ?_, ?_, ?_⟩⟩, ?_⟩
  · rw [← Batch.not_finds_iff]
    constructor
    · rintro ⟨stopped, hstopped⟩ hfinds
      cases (hchosen hfinds).symm.trans hstopped
    · intro hnot
      obtain ⟨report, hstopped⟩ := hstop hnot
      exact ⟨_, hstopped⟩
  · obtain ⟨report, hstopped⟩ := hstop hnot
    exact ⟨report, execute_of_prepare_eq_exit hstopped⟩
  · exact concludes_of_prepare (hchosen hfinds) hfast
  · exact Batch.hasSurrogate_text_iff
  · exact Batch.text_eq_lines _
  · rw [Batch.text_eq_lines, chosen, Batch.namedLines_select]
  · intro words' hread'
    have hprepare' : prepare entry words' (host.begin (activity entry)) =
        (.ok (loaded.withFunctions none), after) := by
      rw [prepare_withFunctions hload hread']
      exact select_of_none (p := loaded.withFunctions none) rfl hfinds.ne_nil entry after
    exact concludes_of_prepare hprepare' hfast
  · intro words' pieces hpieces hlist' hread' hsame
    have hnames := Batch.mem_names_join_congr hpieces hsame
    generalize Text.join [44] pieces = list' at hlist' hread' hnames
    have hprepare' := prepare_withFunctions hload hread'
    obtain ⟨hchosen', hstop'⟩ :=
      select_apply (p := loaded.withFunctions (some list')) rfl hlist' entry after
    rw [← hprepare'] at hchosen' hstop'
    by_cases hfinds : Batch.Finds list loaded.signatures
    · have hexecute : execute entry words' host = execute entry words host := by
        refine execute_congr_of_prepare (some list') (hchosen hfinds) ?_
        rw [hchosen' ((Batch.finds_congr hnames _).2 hfinds), chosen, chosen,
          Batch.select_congr hnames]
        rfl
      exact ⟨congrArg Prod.fst hexecute, fun _ ↦ hexecute⟩
    · obtain ⟨report, hstopped⟩ := hstop hfinds
      obtain ⟨report', hstopped'⟩ := hstop' fun h ↦ hfinds ((Batch.finds_congr hnames _).1 h)
      rw [execute_of_prepare_eq_exit hstopped, execute_of_prepare_eq_exit hstopped']
      exact ⟨rfl, fun h ↦ absurd h hfinds⟩

/-- Two of three functions are selected, the failing one is not; the run is compared with the one of
all functions and with one whose list is written otherwise. -/
theorem execute_of_functions_threeFunctions :
    ∃ loaded after,
      Concludes {} ["s.json", "--stdout", "--function", "f,h"] threeFunctions
        (chosen "f,h" loaded) after ∧
      (chosen "f,h" loaded).signatures.any Signature.fails = false ∧
      Batch.text (chosen "f,h" loaded).signatures = "f()\nh()\n" ∧
      Concludes {} ["s.json", "--stdout"] threeFunctions (loaded.withFunctions none) after ∧
      loaded.signatures.any Signature.fails = true ∧
      execute {} ["s.json", "--stdout", "--function", " h,f,,f "] threeFunctions =
        execute {} ["s.json", "--stdout", "--function", "f,h"] threeFunctions := by
  let a : Arguments :=
    { signatureFile := some (.ofText "s.json"), toOutput := true, functions := some "f,h" }
  let settled : Prepared → Bool := fun p ↦ !p.tuning.failFast &&
    decide (p.signatures.map Signature.name = (["f", "g", "h"] : List Text)) &&
    !(chosen "f,h" p).signatures.any Signature.fails && p.signatures.any Signature.fails &&
    decide (Batch.text (chosen "f,h" p).signatures = "f()\nh()\n")
  have hsettled : (load {} a (threeFunctions.begin (activity {}))).1.toOption.any settled =
      true := by decide +kernel
  rcases hload : load {} a (threeFunctions.begin (activity {})) with ⟨_ | loaded, after⟩
  · rw [hload] at hsettled
    exact absurd hsettled Bool.false_ne_true
  · rw [hload] at hsettled
    simp only [Except.toOption, Option.any_some, settled, Bool.and_eq_true, Bool.not_eq_true',
      decide_eq_true_eq] at hsettled
    obtain ⟨⟨⟨⟨hfast, hnames⟩, hclear⟩, hfails⟩, htext⟩ := hsettled
    have hfinds : Batch.Finds "f,h" loaded.signatures := by
      refine ⟨by decide +kernel, fun name hname ↦ ?_⟩
      rw [← List.mem_map (f := Signature.name), hnames]
      revert name
      decide +kernel
    have hread : Arguments.read ["s.json", "--stdout", "--function", "f,h"] = .ok a := by
      decide +kernel
    obtain ⟨-, -, hselected, hsame⟩ := execute_of_functions hread rfl (by decide) hload
    obtain ⟨hconcludes, -, -, -, hothers⟩ := (hselected hfinds).2 hfast
    have htrimmed : ([" h", "f", "", "f "] : List Text).map Text.trimBlanks =
        (["h", "f", "", "f"] : List Text) := by decide +kernel
    have hempty : ("" : Text) = [] := rfl
    have hlist : Batch.names "f,h" = (["f", "h"] : List Text) := by decide +kernel
    refine ⟨loaded, after, hconcludes, hclear, htext, hothers _ (by decide +kernel), hfails,
      (hsame _ [" h", "f", "", "f "] (by decide +kernel) (by decide) (by decide +kernel) ?_).2
        hfinds⟩
    intro name hname
    rw [← List.mem_map, htrimmed, hlist]
    simp [hname, hempty, or_comm]

/-- The one function of the file is selected and does not fail, and the run ends without an exit
code. -/
theorem selection_raises_on_surrogate :
    ∃ a loaded after, Arguments.read ["s.json", "--function", "f"] = .ok a ∧
      a.functions = some "f" ∧
      load {} a (onlySurrogate.begin (activity {})) = (.ok loaded, after) ∧
      loaded.tuning.failFast = false ∧ Batch.names "f" = (["f"] : List Text) ∧
      loaded.signatures.map Signature.name = (["f"] : List Text) ∧
      (∀ s ∈ loaded.signatures, s.fails = false) ∧
      ∃ cause stopped, execute {} ["s.json", "--function", "f"] onlySurrogate =
        (.raised (.unencodable cause), stopped) := by
  let a : Arguments := { signatureFile := some (.ofText "s.json"), functions := some "f" }
  let settled : Prepared → Bool := fun p ↦ !p.tuning.failFast &&
    decide (p.signatures.map Signature.name = (["f"] : List Text)) && p.signatures.all (!·.fails)
  have hsettled : (load {} a (onlySurrogate.begin (activity {}))).1.toOption.any settled =
      true := by decide +kernel
  rcases hload : load {} a (onlySurrogate.begin (activity {})) with ⟨_ | loaded, after⟩
  · rw [hload] at hsettled
    exact absurd hsettled Bool.false_ne_true
  · rw [hload] at hsettled
    simp only [Except.toOption, Option.any_some, settled, Bool.and_eq_true, Bool.not_eq_true',
      List.all_eq_true, decide_eq_true_eq] at hsettled
    obtain ⟨⟨hfast, hnames⟩, hclear⟩ := hsettled
    obtain ⟨stopped, hexecute, -⟩ := execute_onlySurrogate
    exact ⟨a, loaded, after, by decide +kernel, rfl, hload, hfast, by decide +kernel, hnames,
      hclear, _, stopped, hexecute⟩

end Run

end SignatureBridge
