import SignatureBridge.Reflection.Notes
import SignatureBridge.Proofs.Reflection.Declaring

/-!
# Required parameters behind optional ones

C# wants every parameter behind an optional one to be optional too. The order of a list is never
changed; a list that breaks the rule is warned about. This module says when, in terms of the Python
parameters alone. `Parameter.givesOptional` and `Parameter.mustBeGiven` tell from an entry whether
its declaration is optional or required, and `latecomers` lists the required entries behind the
first optional one.

The warnings come from a loop over the declarations that remembers the first optional one.
`misorderedAfter_some` is what the loop does once it remembers one, and `misordered_eq_latecomers`
what it does from the start; both are inductions along the list of parameters, in which the slashes
disappear. The records of a list hold other warnings as well, on defaults of an unknown form, and
`orderWarnings` keeps apart those that concern the order.

In the parameter list of a Python signature (`PythonShaped`) no required parameter comes behind one
that is optional in C# (`pairwise_of_pythonShaped`): keyword-only and gathering parameters always
are, and among the others Python itself has the rule.
-/

namespace SignatureBridge

open Journal

namespace Parameter

/-- An entry whose declaration is optional: no slash, and with a default, gathering or
keyword-only. -/
def givesOptional (p : Parameter) : Bool :=
  !p.isSlash && (p.default.isSome || p.kind.isVariadic || p.keywordOnly)

/-- An entry whose declaration is required: normal, not keyword-only and without a default. -/
def mustBeGiven (p : Parameter) : Bool := p.kind = .normal && !p.keywordOnly && p.default.isNone

/-- The required entries behind the first optional one, each with the identifiers of itself and of
that one. -/
def latecomers (ps : List Parameter) : List (Text × Text) :=
  match ps.find? givesOptional with
  | none => []
  | some first =>
    ((ps.dropWhile (!givesOptional ·)).filter mustBeGiven).map fun p ↦
      (Identifier.normalize p.name, Identifier.normalize first.name)

/-! ### Optional and required entries -/

/-- A slash is neither optional nor required. -/
theorem not_givesOptional_of_isSlash {p : Parameter} (h : p.isSlash = true) :
    p.givesOptional = false ∧ p.mustBeGiven = false := by
  have hkind : p.kind = .positionalOnlyMarker := of_decide_eq_true h
  exact ⟨by rw [givesOptional, h]; rfl, by rw [mustBeGiven, hkind]; rfl⟩

/-- The declaration of an entry is optional exactly if the entry says so. -/
theorem Declares.isOptional_eq_givesOptional {p : Parameter} {d : Declaration}
    (hslash : p.isSlash = false) (h : p.Declares d) :
    d.isOptional = p.givesOptional := by
  rw [h.isOptional, givesOptional, hslash, Parameter.effectiveDefault]
  rcases p.default with - | c
  · cases p.kind.isVariadic <;> cases p.keywordOnly <;> rfl
  · rfl

/-- An entry with a declaration is either optional or required. -/
theorem Declares.mustBeGiven_eq {p : Parameter} {d : Declaration} (hslash : p.isSlash = false)
    (h : p.Declares d) :
    p.mustBeGiven = !p.givesOptional := by
  obtain ⟨a, htyping, -⟩ := h.type
  rw [mustBeGiven, givesOptional, hslash]
  rcases hk : p.kind with - | - | - | - | name
  · cases p.default <;> cases p.keywordOnly <;> rfl
  · cases p.default <;> rfl
  · cases p.default <;> rfl
  · rw [isSlash, hk] at hslash
    exact absurd hslash (by decide)
  · rw [typing, hk] at htyping
    exact absurd htyping (by simp)

/-! ### The loop over the declarations -/

/-- Once an optional declaration is remembered, every required one is reported with it. -/
theorem misorderedAfter_some {ps : List Parameter} {ds : ParameterList}
    (h : declarations ps = .ok ds) (first : Text) :
    ParameterList.misorderedAfter (some first) ds =
      (ps.filter mustBeGiven).map fun p ↦ (Identifier.normalize p.name, first) := by
  -- along the parameters, not the declarations: a slash is an entry of the one and of the other not
  induction ps generalizing ds with
  | nil =>
    obtain rfl : ([] : ParameterList) = ds := Except.ok.inj h
    rfl
  | cons p ps ih =>
    rcases declarations_cons_eq_ok h with ⟨hslash, hps⟩ | ⟨d, rest, hslash, hd, hps, rfl⟩
    · rw [ih hps, List.filter_cons_of_neg (by rw [(not_givesOptional_of_isSlash hslash).2]; decide)]
    · rw [ParameterList.misorderedAfter, hd.isOptional_eq_givesOptional hslash]
      rcases hopt : p.givesOptional with - | -
      · rw [List.filter_cons_of_pos (by rw [hd.mustBeGiven_eq hslash, hopt]; rfl), List.map_cons,
          ← ih hps, hd.identifier]
        rfl
      · rw [List.filter_cons_of_neg (by rw [hd.mustBeGiven_eq hslash, hopt]; decide)]
        exact ih hps

/-- **The loop finds the latecomers**, in the order of the list. -/
theorem misordered_eq_latecomers {ps : List Parameter} {ds : ParameterList}
    (h : declarations ps = .ok ds) :
    ds.misordered = latecomers ps := by
  induction ps generalizing ds with
  | nil =>
    obtain rfl : ([] : ParameterList) = ds := Except.ok.inj h
    rfl
  | cons p ps ih =>
    rcases declarations_cons_eq_ok h with ⟨hslash, hps⟩ | ⟨d, rest, hslash, hd, hps, rfl⟩
    · have hopt := (not_givesOptional_of_isSlash hslash).1
      rw [ih hps, latecomers, latecomers, List.find?_cons_of_neg (by rw [hopt]; decide),
        List.dropWhile_cons_of_pos (by rw [hopt]; rfl)]
    · rw [ParameterList.misordered, ParameterList.misorderedAfter,
        hd.isOptional_eq_givesOptional hslash]
      rcases hopt : p.givesOptional with - | -
      · rw [latecomers, List.find?_cons_of_neg (by rw [hopt]; decide),
          List.dropWhile_cons_of_pos (by rw [hopt]; rfl)]
        exact ih hps
      · rw [latecomers, List.find?_cons_of_pos hopt,
          List.dropWhile_cons_of_neg (by rw [hopt]; decide),
          List.filter_cons_of_neg (by rw [hd.mustBeGiven_eq hslash, hopt]; decide)]
        show ParameterList.misorderedAfter (some d.identifier) rest = _
        rw [hd.identifier]
        exact misorderedAfter_some hps (Identifier.normalize p.name)

end Parameter

namespace Reflection

/-! ### The pass over a list -/

/-- One pass over the entries of a list. It appends to the declarations and to the notes made so
far, and ends with the first entry that fails. -/
def declareOnto (ds : ParameterList) (notes : List Note) :
    List Parameter → Except ReflectError ParameterList × List Note
  | [] => (.ok ds, notes)
  | p :: ps =>
    match p.declare with
    | .error cause => (.error cause, notes ++ parameterNotes p)
    | .ok none => declareOnto ds (notes ++ parameterNotes p) ps
    | .ok (some d) => declareOnto (ds ++ [d]) (notes ++ parameterNotes p) ps

/-- Reflecting a list as one course of events: the pass over the entries, the check of the order on
request, and the count. -/
def assemble (checkOrder : Bool) (ps : List Parameter) :
    Except ReflectError ParameterList × List Note :=
  match declareOnto [] [] ps with
  | (.error cause, notes) => (.error cause, notes)
  | (.ok ds, notes) =>
    (.ok ds, notes ++ (if checkOrder then orderNotes ds else []) ++ [.reflected ds.length])

theorem declareOnto_eq (ds : ParameterList) (notes : List Note) (ps : List Parameter) :
    declareOnto ds notes ps =
      ((Parameter.declarations ps).map (ds ++ ·), notes ++ entryNotes ps) := by
  induction ps generalizing ds notes with
  | nil => simp [declareOnto, Parameter.declarations, entryNotes, Except.map]
  | cons p ps ih =>
    rw [declareOnto, Parameter.declarations, entryNotes]
    rcases p.declare with cause | declared
    · rfl
    · rcases declared with - | d
      · show declareOnto ds (notes ++ parameterNotes p) ps = _
        rw [ih, List.append_assoc]
      · show declareOnto (ds ++ [d]) (notes ++ parameterNotes p) ps = _
        rw [ih, List.append_assoc]
        rcases Parameter.declarations ps with cause | rest
        · rfl
        · simp [Except.map]

/-- **The course of events** ends in the declarations of the list, and what it notes on the way are
the notes of the list. -/
theorem assemble_eq (checkOrder : Bool) (ps : List Parameter) :
    assemble checkOrder ps = (Parameter.declarations ps, listNotes checkOrder ps) := by
  rw [assemble, declareOnto_eq, listNotes]
  rcases Parameter.declarations ps with cause | ds
  · simp [Except.map]
  · simp [Except.map]

/-! ### Warnings on the order -/

/-- A warning of the part that puts parameter lists together. -/
def isOrderWarning (r : Record) : Bool := r.origin = .parameters && r.level = .warning

/-- The warnings on the order of a list among its records. -/
def orderWarnings (checkOrder : Bool) (ps : List Parameter) : List Record :=
  (listRecords checkOrder ps).filter isOrderWarning

/-- The warning that a required parameter comes behind an optional one. -/
def orderWarning (required optional : Text) : Record where
  origin := .parameters
  level := .warning
  message :=
    "Required parameter '" ++ required ++ "' follows optional parameter '" ++ optional ++ "'"

/-- No note on a parameter by itself is a warning on the order. -/
theorem not_isOrderWarning_of_mem_parameterNotes {p : Parameter} :
    ∀ n ∈ parameterNotes p, isOrderWarning n.record = false := by
  intro n hn
  have hannotation : ∀ a : Annotation, n ∈ annotationNotes a → isOrderWarning n.record = false := by
    intro a ha
    obtain ⟨b, -, rfl⟩ := List.mem_map.1 ha
    rfl
  have hdefault : ∀ c : Constant, n ∈ defaultNotes c → isOrderWarning n.record = false := by
    intro c hc
    rw [defaultNotes] at hc
    split at hc
    · rw [List.mem_singleton.1 hc]
      rfl
    · split at hc
      · rw [List.mem_singleton.1 hc]
        rfl
      · exact absurd hc List.not_mem_nil
  rw [parameterNotes] at hn
  split at hn
  · rename_i a _
    rcases List.mem_append.1 hn with h | h
    · exact hannotation a h
    · rcases hp : p.effectiveDefault with - | c
      · rw [hp] at h
        exact absurd h List.not_mem_nil
      · rw [hp] at h
        exact hdefault c h
  · exact absurd hn List.not_mem_nil

theorem not_isOrderWarning_of_mem_entryNotes {ps : List Parameter} :
    ∀ n ∈ entryNotes ps, isOrderWarning n.record = false := by
  induction ps with
  | nil =>
    intro n hn
    exact absurd hn List.not_mem_nil
  | cons p ps ih =>
    intro n hn
    rw [entryNotes] at hn
    split at hn
    · exact not_isOrderWarning_of_mem_parameterNotes n hn
    · rcases List.mem_append.1 hn with h | h
      · exact not_isOrderWarning_of_mem_parameterNotes n h
      · exact ih n h

/-- The notes on the order become warnings on the order, one each. -/
theorem filter_orderNotes (ds : ParameterList) :
    ((orderNotes ds).map Note.record).filter isOrderWarning =
      ds.misordered.map fun late ↦ orderWarning late.1 late.2 := by
  rw [orderNotes, List.map_map, List.filter_eq_self.2]
  · rfl
  · intro r hr
    obtain ⟨late, -, rfl⟩ := List.mem_map.1 hr
    rfl

/-- **The warnings on the order come from the declarations.** A list that fails gets none, and
neither does any list without the check. -/
theorem orderWarnings_eq_of_outcome (checkOrder : Bool) (ps : List Parameter) :
    orderWarnings checkOrder ps =
      match Parameter.declarations ps with
      | .error _ => []
      | .ok ds =>
        if checkOrder then ds.misordered.map fun late ↦ orderWarning late.1 late.2 else [] := by
  have hentries : ((entryNotes ps).map Note.record).filter isOrderWarning = [] := by
    rw [List.filter_eq_nil_iff]
    intro r hr
    obtain ⟨n, hn, rfl⟩ := List.mem_map.1 hr
    rw [not_isOrderWarning_of_mem_entryNotes n hn]
    decide
  have hstarted : [listActivity.started].filter isOrderWarning = [] := rfl
  rcases h : Parameter.declarations ps with cause | ds
  · have hrecords : listRecords checkOrder ps = [listActivity.started] ++
        ((entryNotes ps).map Note.record ++ [listActivity.failed noTime cause.message]) := by
      simp [listRecords, listNotes, h]
    rw [orderWarnings, hrecords, List.filter_append, List.filter_append, hstarted, hentries]
    rfl
  · have hrecords : listRecords checkOrder ps = [listActivity.started] ++
        ((entryNotes ps).map Note.record ++
          (((if checkOrder then orderNotes ds else []).map Note.record) ++
            [(Note.reflected ds.length).record, listActivity.completed noTime])) := by
      simp [listRecords, listNotes, h]
    have hlast : [(Note.reflected ds.length).record, listActivity.completed noTime].filter
        isOrderWarning = [] := rfl
    rw [orderWarnings, hrecords, List.filter_append, List.filter_append, List.filter_append,
      hstarted, hentries, hlast, List.nil_append, List.nil_append, List.append_nil]
    cases checkOrder
    · rfl
    · exact filter_orderNotes ds

/-- The warnings on the order of a list that is declared are those for its latecomers, and none
without the check. -/
theorem orderWarnings_eq {ps : List Parameter} {ds : ParameterList}
    (h : Parameter.declarations ps = .ok ds) (checkOrder : Bool) :
    orderWarnings checkOrder ps =
      if checkOrder then (Parameter.latecomers ps).map fun late ↦ orderWarning late.1 late.2
      else [] := by
  rw [orderWarnings_eq_of_outcome, h, ← Parameter.misordered_eq_latecomers h]

end Reflection

namespace Parameter

/-! ### Parameter lists of Python signatures -/

/-- The shape of the parameter list of a Python signature: slashes and plain parameters, of which
none without a default comes behind one with a default; at most one that gathers positional
arguments; keyword-only parameters; at most one that gathers keyword arguments. -/
structure PythonShaped (ps : List Parameter) : Prop where
  parts : ∃ plain starred keywords doubleStarred : List Parameter,
    ps = plain ++ (starred ++ (keywords ++ doubleStarred)) ∧
    (∀ p ∈ plain, p.kind = .positionalOnlyMarker ∨ p.kind = .normal ∧ p.keywordOnly = false) ∧
    plain.Pairwise (fun p q ↦ p.kind = .normal → q.kind = .normal → p.default.isSome = true →
      q.default.isSome = true) ∧
    (∀ p ∈ starred, p.kind = .variadicPositional) ∧ starred.length ≤ 1 ∧
    (∀ p ∈ keywords, p.kind = .normal ∧ p.keywordOnly = true) ∧
    (∀ p ∈ doubleStarred, p.kind = .variadicKeyword) ∧ doubleStarred.length ≤ 1

/-- An entry whose own default has a literal. -/
def Renders (p : Parameter) : Prop := ∀ c, p.default = some c → ∃ rendered, c.reflect = .ok rendered

/-- The forced default has a literal, so an entry that renders has one for its effective default. -/
theorem Renders.effectiveDefault {p : Parameter} (h : p.Renders) :
    ∀ c, p.effectiveDefault = some c → ∃ rendered, c.reflect = .ok rendered := by
  intro c hc
  rcases effectiveDefault_eq_some hc with hown | rfl
  · exact h c hown
  · exact ⟨_, rfl⟩

/-- Behind the plain parameters of a signature nothing is required. -/
theorem not_mustBeGiven_of_kind {p : Parameter}
    (h : p.kind = .variadicPositional ∨ p.kind = .normal ∧ p.keywordOnly = true ∨
      p.kind = .variadicKeyword) :
    p.mustBeGiven = false := by
  rcases h with h | ⟨h, hkeyword⟩ | h
  · rw [mustBeGiven, h]
    rfl
  · rw [mustBeGiven, h, hkeyword]
    rfl
  · rw [mustBeGiven, h]
    rfl

/-- An optional entry is not required. -/
theorem not_mustBeGiven_of_givesOptional {p : Parameter} (h : p.givesOptional = true) :
    p.mustBeGiven = false := by
  simp only [givesOptional, Bool.and_eq_true, Bool.or_eq_true] at h
  rw [mustBeGiven]
  rcases h.2 with (hdefault | hvariadic) | hkeyword
  · rw [Option.isNone_eq_false_iff.2 hdefault, Bool.and_false]
  · rcases hk : p.kind with - | - | - | - | name <;> simp_all [ParameterKind.isVariadic]
  · rw [hkeyword, Bool.not_true, Bool.and_false, Bool.false_and]

/-- A plain parameter is optional only by its own default. -/
theorem default_of_givesOptional {p : Parameter}
    (hkind : p.kind = .positionalOnlyMarker ∨ p.kind = .normal ∧ p.keywordOnly = false)
    (h : p.givesOptional = true) : p.kind = .normal ∧ p.default.isSome = true := by
  rcases hkind with hkind | ⟨hkind, hkeyword⟩
  · rw [givesOptional, isSlash, hkind] at h
    exact absurd h (by simp)
  · rw [givesOptional, isSlash, hkind, hkeyword] at h
    exact ⟨hkind, by simpa [ParameterKind.isVariadic] using h⟩

/-- **In a Python signature nothing required comes behind something optional.** -/
theorem pairwise_of_pythonShaped {ps : List Parameter} (h : PythonShaped ps) :
    ps.Pairwise fun p q ↦ p.givesOptional = true → q.mustBeGiven = false := by
  obtain ⟨plain, starred, keywords, doubleStarred, rfl, hplain, horder, hstarred, -, hkeywords,
    hdouble, -⟩ := h.parts
  have hlate : ∀ q ∈ starred ++ (keywords ++ doubleStarred), q.mustBeGiven = false := by
    intro q hq
    rcases List.mem_append.1 hq with hq | hq
    · exact not_mustBeGiven_of_kind (.inl (hstarred q hq))
    · rcases List.mem_append.1 hq with hq | hq
      · exact not_mustBeGiven_of_kind (.inr (.inl (hkeywords q hq)))
      · exact not_mustBeGiven_of_kind (.inr (.inr (hdouble q hq)))
  refine List.pairwise_append.2 ⟨?_, ?_, fun _ _ q hq _ ↦ hlate q hq⟩
  · refine horder.imp_of_mem fun {p q} hp hq hpq hopt ↦ ?_
    obtain ⟨hkind, hdefault⟩ := default_of_givesOptional (hplain p hp) hopt
    rcases hplain q hq with hq | ⟨hq, -⟩
    · rw [mustBeGiven, hq]
      rfl
    · rw [mustBeGiven, Option.isNone_eq_false_iff.2 (hpq hkind hq hdefault), Bool.and_false]
  · exact List.pairwise_of_forall_mem_list fun _ _ q hq _ ↦ hlate q hq

/-- A list in which nothing required comes behind something optional has no latecomers. -/
theorem latecomers_eq_nil {ps : List Parameter}
    (h : ps.Pairwise fun p q ↦ p.givesOptional = true → q.mustBeGiven = false) :
    latecomers ps = [] := by
  induction ps with
  | nil => rfl
  | cons p ps ih =>
    obtain ⟨hp, hps⟩ := List.pairwise_cons.1 h
    rcases hopt : p.givesOptional with - | -
    · rw [latecomers, List.find?_cons_of_neg (by rw [hopt]; decide),
        List.dropWhile_cons_of_pos (by rw [hopt]; rfl)]
      exact ih hps
    · have hnone : ∀ q ∈ p :: ps, ¬ q.mustBeGiven = true := by
        intro q hq
        rcases List.mem_cons.1 hq with rfl | hq
        · rw [not_mustBeGiven_of_givesOptional hopt]
          decide
        · rw [hp q hq hopt]
          decide
      rw [latecomers, List.find?_cons_of_pos hopt,
        List.dropWhile_cons_of_neg (by rw [hopt]; decide),
        List.filter_eq_nil_iff.2 hnone]
      rfl

/-- The same order holds among the declarations. -/
theorem pairwise_declarations {ps : List Parameter} {ds : ParameterList}
    (hds : declarations ps = .ok ds)
    (h : ps.Pairwise fun p q ↦ p.givesOptional = true → q.mustBeGiven = false) :
    ds.Pairwise fun d e ↦ d.isOptional = true → e.isOptional = true := by
  induction ps generalizing ds with
  | nil =>
    obtain rfl : ([] : ParameterList) = ds := Except.ok.inj hds
    exact List.Pairwise.nil
  | cons p ps ih =>
    obtain ⟨hp, hps⟩ := List.pairwise_cons.1 h
    rcases declarations_cons_eq_ok hds with ⟨-, hrest⟩ | ⟨d, rest, hslash, hd, hrest, rfl⟩
    · exact ih hrest hps
    · refine List.pairwise_cons.2 ⟨?_, ih hrest hps⟩
      intro e he hopt
      obtain ⟨q, hq, hqslash, hqe⟩ := exists_declares_of_mem hrest e he
      rw [hd.isOptional_eq_givesOptional hslash] at hopt
      have hgiven := hp q hq hopt
      rw [hqe.mustBeGiven_eq hqslash] at hgiven
      rw [hqe.isOptional_eq_givesOptional hqslash]
      simpa using hgiven

/-- A Python signature whose defaults render is declared. -/
theorem declarations_of_pythonShaped {ps : List Parameter} (h : PythonShaped ps)
    (hrenders : ∀ p ∈ ps, p.isSlash = false → p.Renders) : ∃ ds, declarations ps = .ok ds := by
  obtain ⟨plain, starred, keywords, doubleStarred, rfl, hplain, -, hstarred, -, hkeywords,
    hdouble, -⟩ := h.parts
  refine declarations_eq_ok fun p hp hslash ↦ ⟨?_, (hrenders p hp hslash).effectiveDefault⟩
  simp only [List.mem_append] at hp
  rcases hp with hp | hp | hp | hp
  · rcases hplain p hp with hkind | ⟨hkind, -⟩
    · rw [isSlash, hkind] at hslash
      exact absurd hslash (by decide)
    · exact ⟨_, by rw [typing, hkind]⟩
  · exact ⟨_, by rw [typing, hstarred p hp]⟩
  · exact ⟨_, by rw [typing, (hkeywords p hp).1]⟩
  · exact ⟨_, by rw [typing, hdouble p hp]⟩

end Parameter

namespace Reflection

/-- **Warnings on the order.** When a parameter list is declared, the check of the order gives
exactly one warning for each required parameter behind an optional one, in the order of the list,
naming it and the first optional parameter. Without the check there is none, and the declarations
are the same. For the parameter list of a Python signature whose defaults render, the list is
declared, there is no warning, and no required declaration comes behind an optional one. -/
theorem orderWarnings_of_declarations :
    (∀ {ps : List Parameter} {ds : ParameterList}, Parameter.declarations ps = .ok ds →
      orderWarnings true ps =
          (Parameter.latecomers ps).map (fun late ↦ orderWarning late.1 late.2) ∧
        orderWarnings false ps = [] ∧
        ∀ checkOrder, assemble checkOrder ps = (.ok ds, listNotes checkOrder ps)) ∧
      ∀ {ps : List Parameter}, Parameter.PythonShaped ps →
        (∀ p ∈ ps, p.isSlash = false → p.Renders) →
        ∃ ds, Parameter.declarations ps = .ok ds ∧
          (∀ checkOrder, orderWarnings checkOrder ps = []) ∧
          ds.Pairwise fun d e ↦ d.isOptional = true → e.isOptional = true := by
  refine ⟨fun h ↦ ⟨orderWarnings_eq h true, orderWarnings_eq h false, fun checkOrder ↦ ?_⟩,
    fun hshape hrenders ↦ ?_⟩
  · rw [assemble_eq, h]
  · obtain ⟨ds, hds⟩ := Parameter.declarations_of_pythonShaped hshape hrenders
    have horder := Parameter.pairwise_of_pythonShaped hshape
    refine ⟨ds, hds, fun checkOrder ↦ ?_, Parameter.pairwise_declarations hds horder⟩
    rw [orderWarnings_eq hds, Parameter.latecomers_eq_nil horder]
    cases checkOrder <;> rfl

/-- A parameter without a default behind one that has one, with a slash between them. -/
def lateSample : List Parameter :=
  [{ name := "my_first", default := some { form := .bool, value := .bool true } }, .slash,
    { name := "class" }]

/-- The parameter list of a Python signature with a keyword-only parameter that has no default. -/
def pythonSample : List Parameter :=
  [{ name := "class" }, .starred, { name := "flag", keywordOnly := true }, .doubleStarred]

/-- The first sample gets a warning that shows the identifiers, the second has the shape of a
signature and gets none. -/
theorem orderWarnings_of_samples :
    (∃ ds, Parameter.declarations lateSample = .ok ds) ∧
      orderWarnings true lateSample = [orderWarning "@class" "myFirst"] ∧
      Parameter.PythonShaped pythonSample ∧ (∀ p ∈ pythonSample, p.isSlash = false → p.Renders) ∧
      orderWarnings true pythonSample = [] := by
  have hds : ∃ ds, Parameter.declarations lateSample = .ok ds := ⟨_, rfl⟩
  have hlate : (Parameter.latecomers lateSample).map (fun late ↦ orderWarning late.1 late.2) =
      [orderWarning "@class" "myFirst"] := by
    decide +kernel
  have hshape : Parameter.PythonShaped pythonSample :=
    ⟨[{ name := "class" }], [.starred], [{ name := "flag", keywordOnly := true }], [.doubleStarred],
      rfl, by simp, by simp,
      by simp [Parameter.starred], by decide, by simp, by simp [Parameter.doubleStarred], by decide⟩
  have hrenders : ∀ p ∈ pythonSample, p.isSlash = false → p.Renders := by
    intro p hp _ c hc
    simp only [pythonSample, List.mem_cons, List.not_mem_nil, or_false] at hp
    rcases hp with rfl | rfl | rfl | rfl <;>
      exact absurd hc (by simp [Parameter.starred, Parameter.doubleStarred])
  refine ⟨hds, ?_, hshape, hrenders, ?_⟩
  · obtain ⟨ds, hok⟩ := hds
    rw [(orderWarnings_of_declarations.1 hok).1, hlate]
  · obtain ⟨-, -, hnone, -⟩ := orderWarnings_of_declarations.2 hshape hrenders
    exact hnone true

end Reflection

end SignatureBridge
