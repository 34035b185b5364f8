import Mathlib.Data.List.Basic
import SignatureBridge.Proofs.Outcome
import SignatureBridge.Reflection.Parameter

/-!
# What a declaration takes from its parameter

The one account of `Parameter.declare` and `Parameter.declarations` on which the results about
parameter lists rest; none of them opens the two functions again. `Declares` lists what a
declaration takes from its parameter: the identifier, the type of the annotation that counts, and
the effective default with its literal. A parameter has a declaration exactly if its kind is known
and its effective default has a literal (`declare_eq_ok`), and only the bare slash has none without
failing (`declare_eq_ok_none_iff`). A list is declared exactly if no entry fails
(`exists_declarations_iff`), and `declarations_cons_eq_ok` takes it apart at its first entry.
-/

namespace SignatureBridge

namespace Parameter

/-- The bare slash, which is left out of the C# list. -/
def isSlash (p : Parameter) : Bool := p.kind = .positionalOnlyMarker

/-- What a declaration takes from its parameter. -/
structure Declares (p : Parameter) (d : Declaration) : Prop where
  identifier : d.identifier = Identifier.normalize p.name
  type : ∃ a, p.typing = .ok (some a) ∧
    d.type = if d.nullable then a.reflect.asNullable else a.reflect
  effectiveDefault : d.effectiveDefault = p.effectiveDefault
  required : p.effectiveDefault = none → d.default = none ∧ d.nullable = false
  optional : ∀ c, p.effectiveDefault = some c → ∃ literal, c.reflect = .ok (literal, d.nullable) ∧
    d.default = some literal

/-- A declaration has a default exactly if its parameter has an effective one. -/
theorem Declares.isOptional {p : Parameter} {d : Declaration} (h : p.Declares d) :
    d.isOptional = p.effectiveDefault.isSome := by
  rw [Declaration.isOptional]
  rcases hp : p.effectiveDefault with - | c
  · rw [(h.required hp).1]
    rfl
  · obtain ⟨literal, -, hdefault⟩ := h.optional c hp
    rw [hdefault]
    rfl

/-! ### Effective defaults -/

theorem effectiveDefault_of_default {p : Parameter} {c : Constant} (h : p.default = some c) :
    p.effectiveDefault = some c := by
  rw [effectiveDefault, h]

/-- Nothing is forced as the default of an entry that gathers arguments or is keyword-only. -/
theorem effectiveDefault_of_default_none {p : Parameter} (h : p.default = none) :
    p.effectiveDefault =
      if p.kind.isVariadic = true ∨ p.keywordOnly = true then some .missing else none := by
  rw [effectiveDefault, h]
  simp

/-- A default that is forced is nothing. -/
theorem effectiveDefault_eq_some {p : Parameter} {c : Constant}
    (h : p.effectiveDefault = some c) : p.default = some c ∨ c = .missing := by
  rcases hown : p.default with - | own
  · rw [effectiveDefault_of_default_none hown, Option.ite_none_right_eq_some] at h
    exact .inr (Option.some.inj h.2).symm
  · rw [effectiveDefault_of_default hown] at h
    exact .inl h

theorem effectiveDefault_eq_none_iff {p : Parameter} :
    p.effectiveDefault = none ↔
      p.default = none ∧ p.kind.isVariadic = false ∧ p.keywordOnly = false := by
  rcases hown : p.default with - | own
  · rw [effectiveDefault_of_default_none hown]
    simp
  · simp [effectiveDefault_of_default hown]

/-! ### One parameter -/

/-- Only the bare slash has no declaration without failing. -/
theorem declare_eq_ok_none_iff {p : Parameter} : p.declare = .ok none ↔ p.isSlash = true := by
  rcases hk : p.kind with - | - | - | - | name <;>
    simp only [isSlash, hk, declare, reflectType, typing, Except.map, Option.map_some,
      Option.map_none, decide_eq_true_eq,
      reduceCtorEq, iff_false]
  all_goals
    intro h
    split at h <;> exact absurd h (by simp)

/-- **A declaration comes from its parameter** in the way that `Declares` lists. -/
theorem declares_of_declare {p : Parameter} {d : Declaration} (h : p.declare = .ok (some d)) :
    p.Declares d := by
  rw [declare, reflectType] at h
  rcases htyping : p.typing with cause | annotation
  · rw [htyping] at h
    exact absurd h (by simp [Except.map])
  · rcases annotation with - | a
    · rw [htyping] at h
      exact absurd h (by simp [Except.map])
    · rw [htyping] at h
      simp only [Except.map, Option.map_some] at h
      rcases hdefault : p.effectiveDefault with - | c
      · rw [hdefault] at h
        simp only [declareAs, Except.ok.injEq, Option.some.injEq] at h
        subst h
        exact ⟨rfl, ⟨a, htyping, rfl⟩, hdefault.symm, fun _ ↦ ⟨rfl, rfl⟩, fun c hc ↦
          absurd (hdefault ▸ hc) (by simp)⟩
      · rw [hdefault] at h
        rcases hreflect : c.reflect with cause | ⟨literal, nullable⟩
        · rw [declareAs, hreflect] at h
          exact absurd h (by simp [Except.map])
        · rw [declareAs, hreflect] at h
          simp only [Except.map, Except.ok.injEq, Option.some.injEq] at h
          subst h
          refine ⟨rfl, ⟨a, htyping, rfl⟩, hdefault.symm, fun hnone ↦
            absurd (hdefault ▸ hnone) (by simp), ?_⟩
          intro c' hc'
          obtain rfl : c = c' := Option.some.inj (hdefault.symm.trans hc')
          exact ⟨literal, hreflect, rfl⟩

/-- A parameter has a declaration if its kind has an annotation and its effective default has a
literal. -/
theorem declare_eq_ok {p : Parameter} {a : Annotation} (htyping : p.typing = .ok (some a))
    (hdefault : ∀ c, p.effectiveDefault = some c → ∃ rendered, c.reflect = .ok rendered) :
    ∃ d, p.declare = .ok (some d) := by
  rw [declare, reflectType, htyping]
  simp only [Except.map, Option.map_some]
  rcases hp : p.effectiveDefault with - | c
  · exact ⟨_, rfl⟩
  · obtain ⟨rendered, hrendered⟩ := hdefault c hp
    rw [declareAs, hrendered]
    exact ⟨_, rfl⟩

/-- A parameter fails as its effective default does, if its kind has an annotation. -/
theorem declare_eq_error {p : Parameter} {a : Annotation} (htyping : p.typing = .ok (some a))
    {c : Constant} (hdefault : p.effectiveDefault = some c) {cause : DefaultError}
    (hreflect : c.reflect = .error cause) : p.declare = .error (.default cause) := by
  rw [declare, reflectType, htyping, hdefault]
  simp only [Except.map, Option.map_some, declareAs, hreflect]

/-! ### Lists -/

/-- A list is declared entry by entry: the slash adds nothing, any other entry its declaration. -/
theorem declarations_cons_eq_ok {p : Parameter} {ps : List Parameter} {ds : ParameterList}
    (h : declarations (p :: ps) = .ok ds) :
    p.isSlash = true ∧ declarations ps = .ok ds ∨
      ∃ d rest, p.isSlash = false ∧ p.Declares d ∧ declarations ps = .ok rest ∧ ds = d :: rest := by
  rw [declarations] at h
  rcases hp : p.declare with cause | declared
  · rw [hp] at h
    exact absurd h (by simp)
  · rw [hp] at h
    rcases declared with - | d
    · exact Or.inl ⟨declare_eq_ok_none_iff.1 hp, h⟩
    · refine Or.inr ?_
      have hslash : p.isSlash = false := by
        rw [← Bool.not_eq_true, ← declare_eq_ok_none_iff, hp]
        simp
      obtain ⟨rest, hps, rfl⟩ := Except.map_eq_ok_iff.1 h
      exact ⟨d, rest, hslash, declares_of_declare hp, hps, rfl⟩

/-- Every declaration of a list comes from one of its entries. -/
theorem exists_declares_of_mem {ps : List Parameter} {ds : ParameterList}
    (h : declarations ps = .ok ds) :
    ∀ d ∈ ds, ∃ p ∈ ps, p.isSlash = false ∧ p.Declares d := by
  induction ps generalizing ds with
  | nil =>
    obtain rfl : ([] : ParameterList) = ds := Except.ok.inj h
    intro d hd
    exact absurd hd List.not_mem_nil
  | cons p ps ih =>
    intro d hd
    rcases declarations_cons_eq_ok h with ⟨-, hps⟩ | ⟨d', rest, hslash, hdeclares, hps, rfl⟩
    · obtain ⟨q, hq, hspec⟩ := ih hps d hd
      exact ⟨q, List.mem_cons_of_mem p hq, hspec⟩
    · rcases List.mem_cons.1 hd with rfl | hd
      · exact ⟨p, List.mem_cons_self, hslash, hdeclares⟩
      · obtain ⟨q, hq, hspec⟩ := ih hps d hd
        exact ⟨q, List.mem_cons_of_mem p hq, hspec⟩

/-- A list is declared if no entry fails, and only then. -/
theorem exists_declarations_iff {ps : List Parameter} :
    (∃ ds, declarations ps = .ok ds) ↔ ∀ p ∈ ps, ∃ declared, p.declare = .ok declared := by
  induction ps with
  | nil => simp [declarations]
  | cons p ps ih =>
    rw [List.forall_mem_cons, ← ih, declarations]
    rcases p.declare with cause | - | d
    · simp
    · simp
    · simp [Except.map_eq_ok_iff]

/-- A list is declared if every entry but the slashes has an annotation and a literal for its
effective default. -/
theorem declarations_eq_ok {ps : List Parameter}
    (h : ∀ p ∈ ps, p.isSlash = false → (∃ a, p.typing = .ok (some a)) ∧
      ∀ c, p.effectiveDefault = some c → ∃ rendered, c.reflect = .ok rendered) :
    ∃ ds, declarations ps = .ok ds := by
  refine exists_declarations_iff.2 fun p hp ↦ ?_
  rcases hslash : p.isSlash with - | -
  · obtain ⟨⟨a, htyping⟩, hdefault⟩ := h p hp hslash
    obtain ⟨d, hd⟩ := declare_eq_ok htyping hdefault
    exact ⟨some d, hd⟩
  · exact ⟨none, declare_eq_ok_none_iff.2 hslash⟩

/-- A list fails exactly if one of its entries does, and the first that does decides the cause. -/
theorem declarations_eq_error_iff {ps : List Parameter} {cause : ReflectError} :
    declarations ps = .error cause ↔ ∃ before p after, ps = before ++ p :: after ∧
      (∀ q ∈ before, ∃ declared, q.declare = .ok declared) ∧ p.declare = .error cause := by
  induction ps with
  | nil => simp [declarations]
  | cons q qs ih =>
    rcases hq : q.declare with cause' | declared
    · have hfirst : declarations (q :: qs) = .error cause' := by rw [declarations, hq]
      rw [hfirst]
      constructor
      · intro h
        obtain rfl := Except.error.inj h
        exact ⟨[], q, qs, rfl, fun _ hmem ↦ absurd hmem List.not_mem_nil, hq⟩
      · rintro ⟨before, p, after, hsplit, hbefore, hp⟩
        cases before with
        | nil =>
          obtain ⟨rfl, -⟩ := List.cons.inj hsplit
          exact congrArg _ (Except.error.inj (hq.symm.trans hp))
        | cons q' before =>
          obtain ⟨rfl, -⟩ := List.cons.inj hsplit
          obtain ⟨declared, hdeclared⟩ := hbefore q List.mem_cons_self
          exact absurd (hq.symm.trans hdeclared) (by simp)
    · have hrest : declarations (q :: qs) = .error cause ↔ declarations qs = .error cause := by
        rw [declarations, hq]
        cases declared with
        | none => exact Iff.rfl
        | some d => cases declarations qs <;> simp [Except.map]
      rw [hrest, ih]
      constructor
      · rintro ⟨before, p, after, rfl, hbefore, hp⟩
        exact ⟨q :: before, p, after, rfl, List.forall_mem_cons.2 ⟨⟨declared, hq⟩, hbefore⟩, hp⟩
      · rintro ⟨before, p, after, hsplit, hbefore, hp⟩
        cases before with
        | nil =>
          obtain ⟨rfl, -⟩ := List.cons.inj hsplit
          exact absurd (hq.symm.trans hp) (by simp)
        | cons q' before =>
          obtain ⟨-, rfl⟩ := List.cons.inj hsplit
          exact ⟨before, p, after, rfl, (List.forall_mem_cons.1 hbefore).2, hp⟩

end Parameter

end SignatureBridge
