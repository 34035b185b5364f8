import Mathlib.Data.List.Forall2
import SignatureBridge.Proofs.Reflection.Ordering

/-!
# Putting parameter lists together

A parameter list is declared entry by entry, in order. Each entry may be left out, give a
declaration or fail, and one failure is the end of all. So `Parameter.declarations` is the monadic
filter-map of `Parameter.declare` (`declarations_eq_filterMapM`), from which the law of
concatenation is read off (`declarations_append`).

A slash is left out without being looked at any further. The outcome is therefore that of the list
without its slashes (`declarations_filter`), in which every entry that does not fail gives one
declaration (`declarations_eq_ok_iff`). The warnings on the order come from the declarations alone,
so they do not see the slashes either.
-/

namespace SignatureBridge

namespace Parameter

/-- The entries that are no slashes. -/
def proper (ps : List Parameter) : List Parameter := ps.filter (!·.isSlash)

/-! ### Slashes -/

theorem declarations_cons_of_isSlash {p : Parameter} (h : p.isSlash = true)
    (ps : List Parameter) : declarations (p :: ps) = declarations ps := by
  rw [declarations, declare_eq_ok_none_iff.2 h]

/-- **The slashes make no difference.** -/
theorem declarations_proper (ps : List Parameter) : declarations (proper ps) = declarations ps := by
  induction ps with
  | nil => rfl
  | cons p ps ih =>
    rw [proper] at ih ⊢
    rcases hslash : p.isSlash with - | -
    · rw [List.filter_cons_of_pos (by simp [hslash]), declarations, declarations, ih]
    · rw [List.filter_cons_of_neg (by simp [hslash]), declarations_cons_of_isSlash hslash, ih]

/-! ### One entry after the other -/

theorem declarations_cons (p : Parameter) (ps : List Parameter) :
    declarations (p :: ps) = do
      match ← p.declare with
      | none => declarations ps
      | some d => return d :: (← declarations ps) := by
  rw [declarations]
  rcases p.declare with cause | - | d
  · rfl
  · rfl
  · cases declarations ps <;> rfl

/-- **A list is declared by a filter-map** that fails as soon as an entry does. -/
theorem declarations_eq_filterMapM (ps : List Parameter) :
    declarations ps = ps.filterMapM declare := by
  induction ps with
  | nil => rfl
  | cons p ps ih =>
    rw [declarations_cons, List.filterMapM_cons, ih]
    rcases p.declare with cause | - | d <;> rfl

theorem filterMapM_append {ε α β : Type} (f : α → Except ε (Option β)) (as bs : List α) :
    (as ++ bs).filterMapM f = do return (← as.filterMapM f) ++ (← bs.filterMapM f) := by
  induction as with
  | nil => simp
  | cons a as ih =>
    rw [List.cons_append, List.filterMapM_cons, List.filterMapM_cons, ih]
    rcases f a with cause | - | b
    · rfl
    · rfl
    · rcases as.filterMapM f with cause | cs
      · rfl
      · cases bs.filterMapM f <;> rfl

/-- **Two lists in a row** give the declarations of the first and then those of the second, and fail
as the first of the two that does. -/
theorem declarations_append (ps qs : List Parameter) :
    declarations (ps ++ qs) = do return (← declarations ps) ++ (← declarations qs) := by
  simp only [declarations_eq_filterMapM, filterMapM_append]

/-- **A list is declared** exactly as its proper entries are, one by one. -/
theorem declarations_eq_ok_iff {ps : List Parameter} {ds : ParameterList} :
    declarations ps = .ok ds ↔
      List.Forall₂ (fun p d ↦ p.declare = .ok (some d)) (proper ps) ds := by
  have hproper : ∀ p ∈ proper ps, p.isSlash = false := fun p hp ↦ by
    simpa using List.of_mem_filter hp
  rw [← declarations_proper]
  generalize proper ps = qs at hproper
  induction qs generalizing ds with
  | nil => rw [declarations, List.forall₂_nil_left_iff, Except.ok.injEq, eq_comm]
  | cons q qs ih =>
    obtain ⟨hq, hqs⟩ := List.forall_mem_cons.1 hproper
    rw [declarations, List.forall₂_cons_left_iff]
    rcases hdeclare : q.declare with cause | - | d
    · simp
    · exact absurd (declare_eq_ok_none_iff.1 hdeclare) (by rw [hq]; decide)
    · constructor
      · intro h
        obtain ⟨rest, hrest, rfl⟩ := Except.map_eq_ok_iff.1 h
        exact ⟨d, rest, rfl, (ih hqs).1 hrest, rfl⟩
      · rintro ⟨d', rest, hd', hrest, rfl⟩
        obtain rfl : d = d' := Option.some.inj (Except.ok.inj hd')
        exact Except.map_eq_ok_iff.2 ⟨rest, (ih hqs).2 hrest, rfl⟩

theorem length_proper_add_countP (ps : List Parameter) :
    (proper ps).length + ps.countP isSlash = ps.length := by
  have hcount := List.length_eq_countP_add_countP isSlash (l := ps)
  rw [proper, ← List.countP_eq_length_filter, Nat.add_comm, hcount]
  simp only [Bool.not_eq_true, Bool.decide_eq_false]

end Parameter

namespace Reflection

open Parameter (declarations proper)

/-- **A parameter list is put together entry by entry, or not at all.** The check of the order does
not touch the outcome. A list is declared exactly if none of its entries fails. Then its
declarations are those of its proper entries in their order, and all that is missing is the slashes.
Else the first entry that fails gives the cause, and there is no warning on the order. Slashes,
wherever they stand, change neither the outcome nor these warnings. And two lists in a row are
declared as one after the other. -/
theorem declarations_all_or_nothing :
    (∀ (checkOrder : Bool) (ps : List Parameter),
        (assemble checkOrder ps).1 = declarations ps) ∧
      (∀ ps : List Parameter, (∃ ds, declarations ps = .ok ds) ↔
        ∀ p ∈ ps, ∃ declared, p.declare = .ok declared) ∧
      (∀ {ps : List Parameter} {ds : ParameterList}, declarations ps = .ok ds →
        List.Forall₂ (fun p d ↦ p.declare = .ok (some d)) (proper ps) ds ∧
          ds.length + ps.countP Parameter.isSlash = ps.length) ∧
      (∀ {ps : List Parameter} {cause : ReflectError}, declarations ps = .error cause →
        (∃ before p after, ps = before ++ p :: after ∧
          (∀ q ∈ before, ∃ declared, q.declare = .ok declared) ∧ p.declare = .error cause) ∧
        ∀ checkOrder, orderWarnings checkOrder ps = []) ∧
      (∀ {ps qs : List Parameter}, proper ps = proper qs → declarations ps = declarations qs ∧
        ∀ checkOrder, orderWarnings checkOrder ps = orderWarnings checkOrder qs) ∧
      ∀ ps qs : List Parameter,
        declarations (ps ++ qs) = do return (← declarations ps) ++ (← declarations qs) := by
  refine ⟨fun checkOrder ps ↦ by rw [assemble_eq], fun ps ↦ Parameter.exists_declarations_iff,
    ?declared, ?failed, ?slashes, Parameter.declarations_append⟩
  case declared =>
    intro ps ds h
    have hentries := Parameter.declarations_eq_ok_iff.1 h
    refine ⟨hentries, ?_⟩
    rw [← hentries.length_eq, Parameter.length_proper_add_countP]
  case failed =>
    intro ps cause h
    refine ⟨Parameter.declarations_eq_error_iff.1 h, fun checkOrder ↦ ?_⟩
    rw [orderWarnings_eq_of_outcome, h]
  case slashes =>
    intro ps qs h
    have hsame : declarations ps = declarations qs := by
      rw [← Parameter.declarations_proper, h, Parameter.declarations_proper]
    refine ⟨hsame, fun checkOrder ↦ ?_⟩
    rw [orderWarnings_eq_of_outcome, orderWarnings_eq_of_outcome, hsame]

/-- Slashes with a default and a flag among three entries. -/
def slashedSample : List Parameter :=
  [.slash, { name := "flag", keywordOnly := true },
    { Parameter.slash with default := some .missing, keywordOnly := true }, { name := "late" }]

/-- An entry of an unknown kind before one whose default is no number. -/
def failingSample : List Parameter :=
  slashedSample ++ [{ name := "x", kind := .other "lambda" },
    { name := "y", default := some { form := .integer, value := .text "seven" } }]

/-- The slashed list is declared without its slashes and warned about like the list that has none.
The failing one gives the cause of the first of its two failures and no warning. -/
theorem declarations_all_or_nothing_of_samples :
    (∃ ds, declarations slashedSample = .ok ds ∧ ds.length + 2 = 4) ∧
      orderWarnings true slashedSample =
        orderWarnings true [{ name := "flag", keywordOnly := true }, { name := "late" }] ∧
      declarations failingSample = .error (.unsupportedKind "lambda") ∧
      orderWarnings true failingSample = [] := by
  obtain ⟨-, -, hdeclared, hfailed, hslashes, -⟩ := declarations_all_or_nothing
  have hok : ∃ ds, declarations slashedSample = .ok ds := ⟨_, rfl⟩
  have herror : declarations failingSample = .error (.unsupportedKind "lambda") := rfl
  obtain ⟨ds, hds⟩ := hok
  exact ⟨⟨ds, hds, (hdeclared hds).2⟩, (hslashes rfl).2 true, herror, (hfailed herror).2 true⟩

end Reflection

end SignatureBridge
