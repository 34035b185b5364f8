import Mathlib.Data.List.Forall2
import SignatureBridge.Proofs.Reflection.HeadNames

/-!
# Interchangeable annotations

Which annotations may stand in for each other inside a larger one. The type of an annotation depends
on three things about each argument: its type, whether it stands for nothing, which counts in a
union, and whether it is the ellipsis, which counts in a tuple. Annotations that agree in the three
are alike (`Alike`), and `Alike.node` is the one step that goes from the arguments to the whole:
alike arguments under names of one meaning give alike annotations.

From this step two things follow by induction. Module names in front of names make no difference
(`alike_of_qualifies`); the induction is on the annotation. And in every surrounding alike
annotations can be put in the place of each other (`Alike.fill`), in particular those with a name
that means nothing, which are all alike to `Any` (`IsUnknown.alike_any`).
-/

namespace SignatureBridge

namespace Annotation

/-- Two annotations play the same part in every annotation that they are arguments of. -/
structure Alike (a b : Annotation) : Prop where
  type : a.reflect = b.reflect
  isNone : a.isNone = b.isNone
  ellipsis : a.name = "..." ↔ b.name = "..."

namespace Alike

variable {a b c : Annotation}

theorem refl (a : Annotation) : Alike a a := ⟨rfl, rfl, Iff.rfl⟩

theorem symm (h : Alike a b) : Alike b a := ⟨h.type.symm, h.isNone.symm, h.ellipsis.symm⟩

theorem trans (h : Alike a b) (h' : Alike b c) : Alike a c :=
  ⟨h.type.trans h'.type, h.isNone.trans h'.isNone, h.ellipsis.trans h'.ellipsis⟩

end Alike

/-! ### From the arguments to the whole -/

section Arguments

variable {as bs : List Annotation}

theorem reflectEach_congr (h : List.Forall₂ Alike as bs) : reflectEach as = reflectEach bs := by
  induction h with
  | nil => rfl
  | cons hab _ ih => rw [reflectEach, reflectEach, hab.type, ih]

theorem valueMembers_congr {α : Type} (h : List.Forall₂ Alike as bs) (images : List α) :
    valueMembers as images = valueMembers bs images := by
  simp only [valueMembers]
  induction h generalizing images with
  | nil => rfl
  | @cons a b as bs hab _ ih =>
    cases images with
    | nil => rfl
    | cons image images =>
      rw [List.zip_cons_cons, List.zip_cons_cons, List.filter_cons, List.filter_cons, hab.isNone]
      rcases b.isNone with - | -
      · exact congrArg (image :: ·) (ih images)
      · exact ih images

/-- Of the arguments, their types apart, a head only looks at what alike ones agree in. -/
theorem arrange_congr (head : Head) (h : List.Forall₂ Alike as bs) (types : List TypeExpr) :
    arrange head as types = arrange head bs types := by
  cases head with
  | tuple =>
    -- only a second argument that is the last one may be the ellipsis
    obtain - | ⟨h1, - | ⟨h2, - | ⟨h3, h⟩⟩⟩ := h
    · rfl
    · rfl
    · simp only [arrange, h2.ellipsis]
    · rfl
  | union => rw [arrange, arrange, valueMembers_congr h, h.length_eq]
  | _ => rfl

/-- **From the arguments to the whole**: alike arguments under names of one meaning. -/
theorem Alike.node {name name' : Text} (hname : Head.bareName name = Head.bareName name')
    (hellipsis : name = "..." ↔ name' = "...") (h : List.Forall₂ Alike as bs) :
    Alike ⟨name, as⟩ ⟨name', bs⟩ where
  type := by
    have hhead : Head.ofName name = Head.ofName name' := by rw [Head.ofName, hname]; rfl
    rw [reflect, reflect, hhead, reflectEach_congr h, arrange_congr _ h]
  isNone := by simp only [hname, Annotation.isNone]
  ellipsis := hellipsis

end Arguments

/-! ### Module names -/

/-- No name in the annotation starts with a module name. -/
inductive HasBareNames : Annotation → Prop
  | node {name : Text} {as : List Annotation} (hname : Head.IsBare name)
    (has : ∀ a ∈ as, HasBareNames a) : HasBareNames ⟨name, as⟩

/-- The second annotation is the first one with module names in front of some of the names. The
ellipsis gets none. -/
inductive Qualifies : Annotation → Annotation → Prop
  | kept {name : Text} {as bs : List Annotation} (h : List.Forall₂ Qualifies as bs) :
    Qualifies ⟨name, as⟩ ⟨name, bs⟩
  | qualified {name lead : Text} {as bs : List Annotation} (hname : name ≠ "...")
    (hlead : lead ∈ Head.modules) (h : List.Forall₂ Qualifies as bs) :
    Qualifies ⟨name, as⟩ ⟨lead ++ name, bs⟩

/-- The ellipsis has no module name in front. -/
theorem name_ne_ellipsis {name : Text} (h : Head.bareName name ≠ "...") : name ≠ "..." := by
  rintro rfl
  exact h (Head.bareName_of_isBare (by decide +kernel))

mutual

/-- **Module names make no difference.** -/
theorem alike_of_qualifies : ∀ (a : Annotation) {b : Annotation}, a.HasBareNames → Qualifies a b →
    Alike a b
  | ⟨name, as⟩, _, .node _ has, .kept h => .node rfl Iff.rfl (forall₂_alike_of_qualifies as has h)
  | ⟨name, as⟩, _, .node hbare has, @Qualifies.qualified _ lead _ bs hname hlead h => by
    have hword : Head.bareName (lead ++ name) = name := Head.bareName_append hlead name
    have hne : lead ++ name ≠ "..." := name_ne_ellipsis (by rw [hword]; exact hname)
    refine .node ?_ (iff_of_false hname hne) (forall₂_alike_of_qualifies as has h)
    rw [hword, Head.bareName_of_isBare hbare]

theorem forall₂_alike_of_qualifies : ∀ (as : List Annotation) {bs : List Annotation},
    (∀ a ∈ as, a.HasBareNames) → List.Forall₂ Qualifies as bs → List.Forall₂ Alike as bs
  | [], _, _, .nil => .nil
  | a :: as, _, has, .cons hab h => by
    obtain ⟨ha, has⟩ := List.forall_mem_cons.1 has
    exact .cons (alike_of_qualifies a ha hab) (forall₂_alike_of_qualifies as has h)

end

/-! ### Surroundings -/

/-- An annotation with one place left open. -/
inductive Surrounding where
  | place
  | around (name : Text) (before : List Annotation) (inner : Surrounding) (after : List Annotation)

/-- The annotation with something in the open place. -/
def Surrounding.fill : Surrounding → Annotation → Annotation
  | place, a => a
  | around name before inner after, a => ⟨name, before ++ inner.fill a :: after⟩

/-- **Alike annotations can be exchanged in every surrounding.** -/
theorem Alike.fill {a b : Annotation} (h : Alike a b) (s : Surrounding) :
    Alike (s.fill a) (s.fill b) := by
  have hsame : ∀ as : List Annotation, List.Forall₂ Alike as as :=
    fun as ↦ List.forall₂_same.2 fun a _ ↦ .refl a
  induction s with
  | place => exact h
  | around name before inner after ih =>
    exact .node rfl Iff.rfl (List.rel_append (hsame before) (.cons ih (hsame after)))

/-- The name means nothing: without a module name it is neither the ellipsis nor in the table. -/
def IsUnknown (a : Annotation) : Prop :=
  Head.bareName a.name ≠ "..." ∧ Head.bareName a.name ∉ Head.names.map Prod.fst

/-- Annotations with a name that means nothing are like `Any`. -/
theorem IsUnknown.alike_any {a : Annotation} (h : a.IsUnknown) : Alike a .any := by
  have hhead : Head.ofName a.name = .unknown := Head.ofName_eq_unknown h.2
  refine ⟨?_, not_isNone_of_ofName (by rw [hhead]; decide),
    iff_of_false (name_ne_ellipsis h.1) (by decide)⟩
  obtain ⟨name, arguments⟩ := a
  rw [reflect, hhead]
  rfl

/-- **Module names and unknown names carry no information.** Where no name has a module name in
front, module names in front of any names but the ellipsis leave the type as it is; and so does in
every surrounding the exchange of an annotation with an unknown name for another one or for `Any`.
-/
theorem reflect_interchange :
    (∀ {a b : Annotation}, a.HasBareNames → Qualifies a b → b.reflect = a.reflect) ∧
      ∀ (s : Surrounding) {a b : Annotation}, a.IsUnknown → (b.IsUnknown ∨ b = .any) →
        (s.fill b).reflect = (s.fill a).reflect := by
  refine ⟨fun ha h ↦ (alike_of_qualifies _ ha h).type.symm, fun s a b ha hb ↦ ?_⟩
  have hany : Alike b .any := by
    rcases hb with hb | rfl
    · exact hb.alike_any
    · exact .refl .any
  exact ((hany.trans ha.alike_any.symm).fill s).type

/-- In a mapping to tuples that an ellipsis ends, module names in front of three names change
nothing; and an unknown name with arguments, a member of a union inside a list, counts as another
one or as `Any`. -/
theorem reflect_interchange_of_samples :
    let order : Annotation := ⟨"Order", [{ name := "int" }]⟩
    let plain : Annotation := ⟨"dict", [{ name := "str" }, ⟨"tuple", [order, { name := "..." }]⟩]⟩
    let qualified : Annotation := ⟨"typing.dict", [{ name := "builtins.str" },
      ⟨"tuple", [⟨"collections.abc.Order", [{ name := "int" }]⟩, { name := "..." }]⟩]⟩
    let inside : Surrounding :=
      .around "list" [] (.around "Union" [{ name := "None" }] .place []) []
    qualified.reflect = plain.reflect ∧
      (inside.fill { name := "typing.Money" }).reflect = (inside.fill order).reflect ∧
      (inside.fill .any).reflect = (inside.fill order).reflect := by
  intro order plain qualified inside
  have hbare : plain.HasBareNames := by
    have hleaf : ∀ {name : Text}, Head.IsBare name → HasBareNames { name } :=
      fun h ↦ .node h fun a ha ↦ absurd ha List.not_mem_nil
    have horder : order.HasBareNames :=
      .node (by decide +kernel) (List.forall_mem_singleton.2 (hleaf (by decide +kernel)))
    refine .node (by decide +kernel) (List.forall_mem_cons.2 ⟨hleaf (by decide +kernel), ?_⟩)
    refine List.forall_mem_singleton.2
      (.node (by decide +kernel) (List.forall_mem_cons.2 ⟨horder, ?_⟩))
    exact List.forall_mem_singleton.2 (hleaf (by decide +kernel))
  have hqualifies : Qualifies plain qualified := by
    refine @Qualifies.qualified "dict" "typing." _ _ (by decide) (by decide)
      (.cons ?_ (.cons ?_ .nil))
    · exact @Qualifies.qualified "str" "builtins." _ _ (by decide) (by decide) .nil
    · refine .kept (.cons ?_ (.cons (.kept .nil) .nil))
      exact @Qualifies.qualified "Order" "collections.abc." _ _ (by decide) (by decide)
        (.cons (.kept .nil) .nil)
  have hunknown : order.IsUnknown ∧ IsUnknown { name := "typing.Money" } := by
    unfold IsUnknown
    decide +kernel
  obtain ⟨hnames, hexchange⟩ := reflect_interchange
  exact ⟨hnames hbare hqualifies, hexchange inside hunknown.1 (.inl hunknown.2),
    hexchange inside hunknown.1 (.inr rfl)⟩

end Annotation

end SignatureBridge
