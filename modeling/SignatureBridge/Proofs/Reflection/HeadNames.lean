import Mathlib.Data.List.Basic
import SignatureBridge.Proofs.Text.Cutting
import SignatureBridge.Reflection.Annotation

/-!
# Names of heads

What the name of an annotation stands for, in terms of how the name is written. A name spells a word
if it is the word, alone or behind one of the three module names (`Head.Spells`). No module name is
the beginning of another (`eq_of_modules`), so at most one can be taken off (`bareName_append`), and
taking it off finds the word that a name spells (`spells_iff`). The table of heads has no word
twice, so the names with a given meaning are the spellings of the words that the table lists for it
(`ofName_eq_iff`).
-/

namespace SignatureBridge

/-- What is found in a table is one of its entries. -/
theorem mem_of_lookup_eq_some {α β : Type} [BEq α] [LawfulBEq α] {table : List (α × β)} {key : α}
    {value : β} (h : table.lookup key = some value) : (key, value) ∈ table := by
  obtain ⟨before, after, rfl, -⟩ := List.lookup_eq_some_iff.1 h
  exact List.mem_append_right before List.mem_cons_self

namespace Head

/-- A name spells a word: it is the word, alone or behind one of the module names. -/
def Spells (name word : Text) : Prop := ∃ lead ∈ [] :: modules, name = lead ++ word

instance (name word : Text) : Decidable (Spells name word) :=
  inferInstanceAs (Decidable (∃ lead ∈ [] :: modules, name = lead ++ word))

/-- A word that could not be taken for one with a module name in front. -/
def IsBare (word : Text) : Prop := ∀ lead ∈ modules, ¬ lead <+: word

instance (word : Text) : Decidable (IsBare word) :=
  inferInstanceAs (Decidable (∀ lead ∈ modules, ¬ lead <+: word))

/-! ### Module names -/

/-- No module name is the beginning of another. -/
theorem eq_of_modules {lead lead' : Text} (h : lead ∈ modules) (h' : lead' ∈ modules) {u v : Text}
    (heq : lead ++ u = lead' ++ v) : lead = lead' := by
  have hfree : ∀ lead ∈ modules, ∀ lead' ∈ modules, lead <+: lead' → lead = lead' := by
    decide +kernel
  rcases List.prefix_or_prefix_of_prefix ⟨u, heq⟩ (List.prefix_append lead' v) with hp | hp
  · exact hfree lead h lead' h' hp
  · exact (hfree lead' h' lead h hp).symm

/-- A module name is taken off, whatever follows it. -/
theorem bareName_append {lead : Text} (h : lead ∈ modules) (word : Text) :
    bareName (lead ++ word) = word := by
  rw [bareName]
  rcases hfound : modules.findSome? (lead ++ word).dropLeading? with - | rest
  · rw [List.findSome?_eq_none_iff] at hfound
    exact absurd (hfound lead h) (by rw [Text.dropLeading?_append]; simp)
  · obtain ⟨lead', h', hrest⟩ := List.exists_of_findSome?_eq_some hfound
    rw [Text.dropLeading?_eq_some_iff] at hrest
    obtain rfl := eq_of_modules h h' hrest
    exact (List.append_cancel_left hrest).symm

theorem bareName_of_isBare {word : Text} (h : IsBare word) : bareName word = word := by
  have hnone : modules.findSome? word.dropLeading? = none := by
    rw [List.findSome?_eq_none_iff]
    intro lead hlead
    rcases hdrop : word.dropLeading? lead with - | rest
    · rfl
    · exact absurd ⟨rest, (Text.dropLeading?_eq_some_iff.1 hdrop).symm⟩ (h lead hlead)
  rw [bareName, hnone]
  rfl

/-- **The word of a name** is what is left of it without a module name. -/
theorem spells_iff {name word : Text} (hword : IsBare word) :
    Spells name word ↔ bareName name = word := by
  constructor
  · rintro ⟨lead, hlead, rfl⟩
    rcases List.mem_cons.1 hlead with rfl | hlead
    · exact bareName_of_isBare hword
    · exact bareName_append hlead word
  · rintro rfl
    by_cases h : IsBare name
    · exact ⟨[], List.mem_cons_self, by rw [bareName_of_isBare h]; rfl⟩
    · obtain ⟨lead, hlead, rest, rfl⟩ : ∃ lead ∈ modules, lead <+: name := by
        simpa only [IsBare, not_forall, not_not, exists_prop] using h
      exact ⟨lead, List.mem_cons_of_mem [] hlead, by rw [bareName_append hlead]⟩

/-! ### The table of heads -/

/-- The words of the table, each with its own meaning only. -/
theorem lookup_names_iff {word : Text} {head : Head} :
    names.lookup word = some head ↔ (word, head) ∈ names := by
  have htable : ∀ entry ∈ names, names.lookup entry.1 = some entry.2 := by decide +kernel
  exact ⟨mem_of_lookup_eq_some, htable (word, head)⟩

/-- **The names with a meaning** are those whose word the table lists for it. -/
theorem ofName_eq_iff {name : Text} {head : Head} (hhead : head ≠ .unknown) :
    ofName name = head ↔ (bareName name, head) ∈ names := by
  rw [ofName, ← lookup_names_iff]
  rcases names.lookup (bareName name) with - | found
  · simp [hhead.symm]
  · simp

/-- A name whose word is not in the table has no meaning. -/
theorem ofName_eq_unknown {name : Text} (h : bareName name ∉ names.map Prod.fst) :
    ofName name = .unknown := by
  by_contra hne
  exact h (List.mem_map_of_mem ((ofName_eq_iff hne).1 rfl))

/-- The names of unions. -/
def IsUnion (name : Text) : Prop := Spells name "Union" ∨ Spells name "|"

instance (name : Text) : Decidable (IsUnion name) :=
  inferInstanceAs (Decidable (Spells name "Union" ∨ Spells name "|"))

theorem ofName_eq_optional_iff {name : Text} :
    ofName name = .optional ↔ Spells name "Optional" := by
  rw [ofName_eq_iff (by decide), spells_iff (by decide +kernel)]
  simp [names]

theorem ofName_eq_union_iff {name : Text} : ofName name = .union ↔ IsUnion name := by
  rw [ofName_eq_iff (by decide), IsUnion, spells_iff (by decide +kernel),
    spells_iff (by decide +kernel)]
  simp [names]

end Head

namespace Annotation

/-- A name that means something else does not stand for nothing. -/
theorem not_isNone_of_ofName {a : Annotation} (h : Head.ofName a.name ≠ .dynamic) :
    a.isNone = false := by
  have hwords : ∀ word ∈ ([Text.ofString "None", Text.ofString "NoneType"]),
      (word, Head.dynamic) ∈ Head.names := by
    decide +kernel
  rw [← Bool.not_eq_true]
  intro hnone
  refine h ((Head.ofName_eq_iff (by decide)).2 (hwords _ ?_))
  simpa [isNone] using hnone

end Annotation

end SignatureBridge
