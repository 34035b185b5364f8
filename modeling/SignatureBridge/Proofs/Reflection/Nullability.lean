import Mathlib.Data.List.Perm.Basic
import Mathlib.Logic.Relation
import SignatureBridge.Proofs.Reflection.HeadNames
import SignatureBridge.Proofs.Reflection.TypeRange

/-!
# Nullable types

When the type of an annotation is nullable. A union has members that stand for a value and members
that stand for nothing. Its type depends on two things alone, the values up to their order and
whether nothing is a member at all, and both are in `optionalMember?`: the one value that may be
absent, if there is exactly one and nothing is a member too. `reflect_union` gives the type from it,
so that every law of unions is one about `optionalMember?`.

`Optional` and the union of a value with nothing are two spellings of one wrapper (`WrappedIn`).
One wrapper sets the mark, and any further one finds it set (`reflect_of_transGen`). No other
annotation has a nullable type (`nullable_reflect_iff`).
-/

namespace SignatureBridge

namespace Annotation

open Head (Spells IsUnion)

/-! ### Members of unions -/

/-- The members that stand for a value. -/
def values (arguments : List Annotation) : List Annotation := arguments.filter (!·.isNone)

/-- One of the members stands for nothing. -/
def HoldsNone (arguments : List Annotation) : Prop := ∃ a ∈ arguments, a.isNone = true

instance (arguments : List Annotation) : Decidable (HoldsNone arguments) :=
  inferInstanceAs (Decidable (∃ a ∈ arguments, a.isNone = true))

/-- The value that may be absent: the only one, if nothing is a member too. -/
def optionalMember? (arguments : List Annotation) : Option Annotation :=
  match values arguments with
  | [member] => if HoldsNone arguments then some member else none
  | _ => none

theorem valueMembers_map {α : Type} (f : Annotation → α) (as : List Annotation) :
    valueMembers as (as.map f) = (values as).map f := by
  induction as with
  | nil => rfl
  | cons a as ih =>
    rw [valueMembers] at ih
    rw [valueMembers, values, List.map_cons, List.zip_cons_cons]
    rcases hnone : a.isNone with - | -
    · rw [List.filter_cons_of_pos (by simp [hnone]), List.filter_cons_of_pos (by simp [hnone]),
        List.map_cons, List.map_cons, ih]
      rfl
    · rw [List.filter_cons_of_neg (by simp [hnone]), List.filter_cons_of_neg (by simp [hnone]), ih]
      rfl

/-- Nothing is a member of a union exactly if there are more members than values. -/
theorem holdsNone_iff {as : List Annotation} : HoldsNone as ↔ (values as).length < as.length := by
  rw [values, List.length_filter_lt_length_iff_exists]
  simp [HoldsNone]

theorem optionalMember?_eq_some_iff {as : List Annotation} {member : Annotation} :
    optionalMember? as = some member ↔ HoldsNone as ∧ values as = [member] := by
  rw [optionalMember?]
  split
  · rename_i found hfound
    split_ifs with hnone
    · simp [hnone, hfound]
    · simp [hnone]
  · rename_i hmany
    refine ⟨fun h ↦ absurd h (by simp), fun h ↦ absurd h.2 (hmany member)⟩

theorem optionalMember?_eq_none_iff {as : List Annotation} :
    optionalMember? as = none ↔ ¬ HoldsNone as ∨ (values as).length ≠ 1 := by
  rw [← not_iff_not, not_or, not_not, not_not, List.length_eq_one_iff, ← Ne,
    Option.ne_none_iff_exists']
  simp only [optionalMember?_eq_some_iff, exists_and_left]

/-- The value that may be absent depends on the values up to their order and on whether nothing is
a member. -/
theorem optionalMember?_congr {as bs : List Annotation} (hvalues : (values as).Perm (values bs))
    (hnone : HoldsNone as ↔ HoldsNone bs) : optionalMember? as = optionalMember? bs := by
  refine Option.ext fun member ↦ ?_
  rw [optionalMember?_eq_some_iff, optionalMember?_eq_some_iff, hnone]
  refine and_congr_right fun _ ↦ ⟨fun h ↦ ?_, fun h ↦ ?_⟩
  · rw [h] at hvalues
    exact List.perm_singleton.1 hvalues.symm
  · rw [h] at hvalues
    exact List.perm_singleton.1 hvalues

theorem optionalMember?_perm {as bs : List Annotation} (h : as.Perm bs) :
    optionalMember? as = optionalMember? bs :=
  optionalMember?_congr (h.filter _) (by simp only [HoldsNone, h.mem_iff])

/-! ### Types of unions -/

/-- **The type of a union** is that of the value that may be absent, with the mark; without such a
value it is the dynamic type. -/
theorem reflect_union {name : Text} (h : IsUnion name) (as : List Annotation) :
    reflect ⟨name, as⟩ = ((optionalMember? as).map (·.reflect.asNullable)).getD .pyObject := by
  rw [reflect, Head.ofName_eq_union_iff.2 h, arrange.eq_def, reflectEach_eq_map,
    valueMembers_map, optionalMember?]
  rcases hvalues : values as with - | ⟨first, - | ⟨second, rest⟩⟩
  · rfl
  · -- one value: that there is more than one member means that nothing is one of them
    have hmore : HoldsNone as ↔ 1 < as.length := by rw [holdsNone_iff, hvalues]; rfl
    show (if 1 < as.length then first.reflect.asNullable else TypeExpr.pyObject) = _
    by_cases hnone : HoldsNone as
    · rw [if_pos (hmore.1 hnone)]
      simp [hnone]
    · rw [if_neg (mt hmore.2 hnone)]
      simp [hnone]
  · rfl

theorem reflect_optional {name : Text} (h : Spells name "Optional") (a : Annotation) :
    reflect ⟨name, [a]⟩ = a.reflect.asNullable := by
  rw [reflect, Head.ofName_eq_optional_iff.2 h]
  rfl

/-! ### Wrappers -/

/-- An annotation is wrapped in another: in `Optional`, or in the union of it with nothing, which
may stand behind it or before it. -/
inductive WrappedIn (a : Annotation) : Annotation → Prop
  | optional {name : Text} (h : Spells name "Optional") : WrappedIn a ⟨name, [a]⟩
  | union {name : Text} (h : IsUnion name) {nothing : Annotation} (hn : nothing.isNone = true) :
    WrappedIn a ⟨name, [a, nothing]⟩
  | unionBehind {name : Text} (h : IsUnion name) {nothing : Annotation}
    (hn : nothing.isNone = true) : WrappedIn a ⟨name, [nothing, a]⟩

variable {a b : Annotation}

theorem WrappedIn.not_isNone (h : WrappedIn a b) : b.isNone = false := by
  refine not_isNone_of_ofName ?_
  cases h with
  | optional h =>
    rw [Head.ofName_eq_optional_iff.2 h]
    decide
  | union h _ | unionBehind h _ =>
    rw [Head.ofName_eq_union_iff.2 h]
    decide

/-- One wrapper around a value sets the mark. -/
theorem WrappedIn.reflect_eq (h : WrappedIn a b) (ha : a.isNone = false) :
    b.reflect = a.reflect.asNullable := by
  have hmember : ∀ {nothing : Annotation}, nothing.isNone = true →
      optionalMember? [a, nothing] = some a := fun {nothing} hn ↦
    optionalMember?_eq_some_iff.2 ⟨⟨nothing, by simp, hn⟩, by simp [values, ha, hn]⟩
  cases h with
  | optional h => exact reflect_optional h a
  | union h hn =>
    rw [reflect_union h, hmember hn]
    rfl
  | @unionBehind name h nothing hn =>
    rw [reflect_union h, optionalMember?_perm (.swap a nothing []), hmember hn]
    rfl

/-- **Any number of wrappers is one.** -/
theorem reflect_of_transGen (h : Relation.TransGen WrappedIn a b) (ha : a.isNone = false) :
    b.reflect = a.reflect.asNullable := by
  induction h with
  | single h => exact h.reflect_eq ha
  | @tail b c hab hbc ih =>
    have hb : b.isNone = false := by
      obtain ⟨b', -, hlast⟩ := Relation.TransGen.tail'_iff.1 hab
      exact hlast.not_isNone
    rw [hbc.reflect_eq hb, ih]
    rfl

/-! ### Which types are nullable -/

theorem nullable_tupleOf (elements : List TypeExpr) :
    (TypeExpr.tupleOf elements).nullable = false := by
  rw [TypeExpr.tupleOf.eq_def]
  split <;> rfl

/-- Only an optional and a union set the mark. -/
theorem not_nullable_arrange {head : Head} (hoptional : head ≠ .optional) (hunion : head ≠ .union)
    (arguments : List Annotation) (types : List TypeExpr) :
    (arrange head arguments types).nullable = false := by
  cases head with
  | optional => exact absurd rfl hoptional
  | union => exact absurd rfl hunion
  | tuple =>
    rw [arrange.eq_def]
    dsimp only
    split
    · rfl
    · split_ifs
      · rfl
      · exact nullable_tupleOf types
    · exact nullable_tupleOf types
  | _ => rfl

/-- An optional sets the mark on the one argument that it is of. -/
theorem nullable_arrange_optional_iff (arguments : List Annotation) (types : List TypeExpr) :
    (arrange .optional arguments types).nullable = true ↔ types.length = 1 := by
  obtain - | ⟨member, - | ⟨second, rest⟩⟩ := types
  · simp [arrange, TypeExpr.pyObject, TypeExpr.named]
  · simp [arrange, TypeExpr.asNullable]
  · simp [arrange, TypeExpr.pyObject, TypeExpr.named]

/-- **The annotations with a nullable type** are the optionals of one argument and the unions of
one value with nothing. -/
theorem nullable_reflect_iff :
    a.reflect.nullable = true ↔
      Spells a.name "Optional" ∧ a.arguments.length = 1 ∨
        IsUnion a.name ∧ HoldsNone a.arguments ∧ (values a.arguments).length = 1 := by
  obtain ⟨name, arguments⟩ := a
  show (reflect ⟨name, arguments⟩).nullable = true ↔
    Spells name "Optional" ∧ arguments.length = 1 ∨
      IsUnion name ∧ HoldsNone arguments ∧ (values arguments).length = 1
  rw [← Head.ofName_eq_optional_iff, ← Head.ofName_eq_union_iff]
  by_cases hoptional : Head.ofName name = .optional
  · rw [reflect, hoptional, nullable_arrange_optional_iff, length_reflectEach]
    simp
  · by_cases hunion : Head.ofName name = .union
    · rw [reflect_union (Head.ofName_eq_union_iff.1 hunion)]
      rcases hmember : optionalMember? arguments with - | member
      · rw [optionalMember?_eq_none_iff, ← not_and_or] at hmember
        simp [hoptional, hmember, TypeExpr.pyObject, TypeExpr.named]
      · obtain ⟨hnone, hvalues⟩ := optionalMember?_eq_some_iff.1 hmember
        simp [hunion, hnone, hvalues, TypeExpr.asNullable]
    · rw [reflect, not_nullable_arrange hoptional hunion]
      simp [hoptional, hunion]

/-! ### The laws together -/

/-- **Unions and optionals obey one law of nullability.** The type of a union does not depend on the
spelling of its name, on the order of its members, or on how often and where nothing is a member, if
it is one at all. It is that of the optional if there is one value besides, and else the dynamic
type without a mark. A value in any number of wrappers has the type that it has in one, its own with
the mark. And no other annotation has a nullable type. -/
theorem reflect_nullability :
    (∀ {u u' : Text} {as bs : List Annotation}, IsUnion u → IsUnion u' → as.Perm bs →
        reflect ⟨u, as⟩ = reflect ⟨u', bs⟩) ∧
      (∀ {u u' : Text} {as bs : List Annotation}, IsUnion u → IsUnion u' → HoldsNone as →
        HoldsNone bs → values as = values bs → reflect ⟨u, as⟩ = reflect ⟨u', bs⟩) ∧
      (∀ {u o : Text} {as : List Annotation} {member : Annotation}, IsUnion u →
        Spells o "Optional" → HoldsNone as → values as = [member] →
          reflect ⟨u, as⟩ = reflect ⟨o, [member]⟩) ∧
      (∀ {u : Text} {as : List Annotation}, IsUnion u →
        ¬ (HoldsNone as ∧ (values as).length = 1) →
          reflect ⟨u, as⟩ = .pyObject ∧ (reflect ⟨u, as⟩).nullable = false) ∧
      (∀ {a b : Annotation}, a.isNone = false → Relation.TransGen WrappedIn a b →
        b.reflect = a.reflect.asNullable) ∧
      ∀ a : Annotation, a.reflect.nullable = true ↔
        Spells a.name "Optional" ∧ a.arguments.length = 1 ∨
          IsUnion a.name ∧ HoldsNone a.arguments ∧ (values a.arguments).length = 1 := by
  refine ⟨?perm, ?nothing, ?optional, ?dynamic, fun ha h ↦ reflect_of_transGen h ha,
    fun a ↦ nullable_reflect_iff⟩
  case perm =>
    intro u u' as bs hu hu' h
    rw [reflect_union hu, reflect_union hu', optionalMember?_perm h]
  case nothing =>
    intro u u' as bs hu hu' has hbs h
    have hvalues : (values as).Perm (values bs) := by rw [h]
    rw [reflect_union hu, reflect_union hu',
      optionalMember?_congr hvalues ⟨fun _ ↦ hbs, fun _ ↦ has⟩]
  case optional =>
    intro u o as member hu ho hnone hvalues
    rw [reflect_union hu, optionalMember?_eq_some_iff.2 ⟨hnone, hvalues⟩, reflect_optional ho]
    rfl
  case dynamic =>
    intro u as hu h
    rw [reflect_union hu, optionalMember?_eq_none_iff.2 (not_and_or.1 h)]
    exact ⟨rfl, rfl⟩

/-- A union with nothing twice is that with nothing once and is the optional; nothing does not make
a union of two values optional; and two wrappers around a number are one. -/
theorem reflect_nullability_of_samples :
    let number : Annotation := { name := "int" }
    let text : Annotation := { name := "builtins.str" }
    let nothing : Annotation := { name := "None" }
    let twice : List Annotation := [nothing, number, { name := "typing.NoneType" }]
    reflect ⟨"typing.Union", twice⟩ =
      reflect ⟨"|", [number, { name := "typing.NoneType" }, nothing]⟩ ∧
      reflect ⟨"|", twice⟩ = reflect ⟨"Union", [number, nothing]⟩ ∧
      reflect ⟨"|", twice⟩ = reflect ⟨"typing.Optional", [number]⟩ ∧
      reflect ⟨"Union", [text, nothing, number]⟩ = .pyObject ∧
      reflect ⟨"Optional", [⟨"|", [nothing, number]⟩]⟩ = number.reflect.asNullable := by
  intro number text nothing twice
  obtain ⟨hperm, hnothing, hoptional, hdynamic, hwrapped, -⟩ := reflect_nullability
  have hunion : IsUnion "Union" ∧ IsUnion "typing.Union" ∧ IsUnion "|" := by decide +kernel
  have hspells : Spells "Optional" "Optional" ∧ Spells "typing.Optional" "Optional" := by
    decide +kernel
  have hnone : HoldsNone twice ∧ HoldsNone [number, nothing] := by decide +kernel
  refine ⟨hperm hunion.2.1 hunion.2.2 ?_, hnothing hunion.2.2 hunion.1 hnone.1 hnone.2 rfl,
    hoptional hunion.2.2 hspells.2 hnone.1 rfl, (hdynamic hunion.1 ?_).1, hwrapped rfl ?_⟩
  · exact (List.perm_append_singleton nothing [number, { name := "typing.NoneType" }]).symm
  · decide +kernel
  · exact .tail (.single (.unionBehind hunion.2.2 (by decide +kernel))) (.optional hspells.1)

end Annotation

end SignatureBridge
