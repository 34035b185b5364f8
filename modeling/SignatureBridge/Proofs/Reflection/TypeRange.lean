import SignatureBridge.Proofs.Declaration.TypeGrammar
import SignatureBridge.Proofs.Reflection.HeadNames

/-!
# Every annotation has a type of the grammar

`Annotation.reflect` never leaves the grammar of the C# types (`inGrammar_reflect`), whatever the
names in the annotation are. The induction is on the annotation; its step is `inGrammar_arrange`,
which goes through the heads. A name is needed only at one place, for the name of a scalar type, and
there it comes from the table of heads and not from the annotation (`Head.isProper_ofName`).
-/

namespace SignatureBridge

namespace Head

/-- A scalar head has the name of a type without arguments. -/
def isProper : Head → Bool
  | scalar target => TypeExpr.leafNames.contains target
  | _ => true

theorem isProper_ofName (name : Text) : (ofName name).isProper = true := by
  have htable : names.all (·.2.isProper) = true := by decide +kernel
  rw [ofName]
  rcases h : names.lookup (bareName name) with - | head
  · rfl
  · exact List.all_eq_true.1 htable _ (mem_of_lookup_eq_some h)

end Head

namespace Annotation

theorem reflectEach_eq_map (as : List Annotation) : reflectEach as = as.map reflect := by
  induction as with
  | nil => rfl
  | cons a as ih => rw [reflectEach, ih, List.map_cons]

theorem length_reflectEach (as : List Annotation) : (reflectEach as).length = as.length := by
  rw [reflectEach_eq_map, List.length_map]

theorem inGrammar_pyObject : TypeExpr.pyObject.InGrammar := .leaf (by decide)

/-- The members that stand for a value come from the images. -/
theorem mem_of_mem_valueMembers {α : Type} {arguments : List Annotation} {images : List α} {x : α}
    (h : x ∈ valueMembers arguments images) : x ∈ images := by
  obtain ⟨⟨a, y⟩, hy, rfl⟩ := List.mem_map.1 h
  exact (List.of_mem_zip (List.mem_of_mem_filter hy)).2

/-- **The step for an annotation**: a proper head arranges types of the grammar into one. -/
theorem inGrammar_arrange {head : Head} {arguments : List Annotation} {types : List TypeExpr}
    (hhead : head.isProper = true) (hlength : types.length = arguments.length)
    (htypes : ∀ t ∈ types, t.InGrammar) : (arrange head arguments types).InGrammar := by
  -- a missing argument counts as the dynamic type
  have hat : ∀ i : Nat, (types[i]?.getD .pyObject).InGrammar := by
    intro i
    rcases h : types[i]? with - | t
    · exact inGrammar_pyObject
    · exact htypes t (List.mem_of_getElem? h)
  cases head with
  | dynamic => exact inGrammar_pyObject
  | scalar target => exact .leaf (List.contains_iff_mem.1 hhead)
  | list => exact .list (hat 0)
  | tuple =>
    have htuple : arguments ≠ [] → (TypeExpr.tupleOf types).InGrammar := by
      intro hne
      refine .tupleOf (fun hnil ↦ hne ?_) htypes
      rw [hnil, List.length_nil] at hlength
      exact List.eq_nil_of_length_eq_zero hlength.symm
    rw [arrange.eq_def]
    dsimp only
    split
    · exact .single inGrammar_pyObject
    · split_ifs
      · exact .list (hat 0)
      · exact htuple (List.cons_ne_nil _ _)
    · rename_i hnil _
      exact htuple hnil
  | mapping => exact .mapping (hat 0) (hat 1)
  | optional =>
    rw [arrange.eq_def]
    dsimp only
    split
    · exact (htypes _ List.mem_cons_self).asNullable
    · exact inGrammar_pyObject
  | union =>
    rw [arrange.eq_def]
    dsimp only
    split
    · rename_i member hmember
      split_ifs
      · have hmem : member ∈ valueMembers arguments types := by
          rw [hmember]
          exact List.mem_cons_self
        exact (htypes member (mem_of_mem_valueMembers hmem)).asNullable
      · exact inGrammar_pyObject
    · exact inGrammar_pyObject
  | unknown => exact inGrammar_pyObject

mutual

/-- **The type of every annotation is in the grammar.** -/
theorem inGrammar_reflect : ∀ a : Annotation, a.reflect.InGrammar
  | ⟨name, arguments⟩ => by
    rw [reflect]
    exact inGrammar_arrange (Head.isProper_ofName name) (length_reflectEach arguments)
      (inGrammar_reflectEach arguments)

theorem inGrammar_reflectEach : ∀ as : List Annotation, ∀ t ∈ reflectEach as, t.InGrammar
  | [] => fun _ ht ↦ absurd ht List.not_mem_nil
  | a :: as => by
    intro t ht
    rw [reflectEach] at ht
    rcases List.mem_cons.1 ht with rfl | ht
    · exact inGrammar_reflect a
    · exact inGrammar_reflectEach as t ht

end

end Annotation

end SignatureBridge
