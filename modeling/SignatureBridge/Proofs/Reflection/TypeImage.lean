import SignatureBridge.Proofs.Declaration.TypeWords
import SignatureBridge.Proofs.Reflection.TypeRange

/-!
# The types of annotations are the grammar

Every type of the grammar is the type of an annotation. `TypeExpr.source` gives one by recursion
on the type, node by node: the name is looked up in a table, and the mark becomes an `Optional`
around the rest. Its names are those of the table, so that none of them is the ellipsis, which would
make a list out of a tuple (`source_name_ne`).

Together with `inGrammar_reflect` this says what reflecting annotations gives as a whole
(`reflect_range`): the grammar, in texts from which the types can be read back and to which no name
of an annotation contributes.
-/

namespace SignatureBridge

namespace TypeExpr

/-- The names of types, each with a name of an annotation that stands for it. -/
def sourceNames : List (Text × Text) :=
  [("PyObject", "Any"), ("long", "int"), ("double", "float"), ("string", "str"), ("bool", "bool"),
    ("byte[]", "bytes"), ("IReadOnlyList", "list"), ("IReadOnlyDictionary", "dict"),
    ("ValueTuple", "tuple")]

/-- The name of an annotation for a type of a name. -/
def sourceName (name : Text) : Text := (sourceNames.lookup name).getD "Any"

mutual

/-- An annotation for a type. -/
def source : TypeExpr → Annotation
  | ⟨name, arguments, nullable, _⟩ =>
    let plain : Annotation := ⟨sourceName name, sourceEach arguments⟩
    if nullable then ⟨"Optional", [plain]⟩ else plain

/-- Annotations for several types. -/
def sourceEach : List TypeExpr → List Annotation
  | [] => []
  | first :: rest => source first :: sourceEach rest

end

theorem sourceEach_eq_map (ts : List TypeExpr) : sourceEach ts = ts.map source := by
  induction ts with
  | nil => rfl
  | cons t ts ih => rw [sourceEach, ih, List.map_cons]

theorem source_of_not_nullable {t : TypeExpr} (h : t.nullable = false) :
    t.source = ⟨sourceName t.name, sourceEach t.arguments⟩ := by
  obtain ⟨name, arguments, nullable, tuple⟩ := t
  obtain rfl : nullable = false := h
  rw [source]
  rfl

theorem source_asNullable {t : TypeExpr} (h : t.nullable = false) :
    t.asNullable.source = ⟨"Optional", [t.source]⟩ := by
  rw [source_of_not_nullable h, asNullable, source]
  rfl

theorem sourceName_ne (name : Text) : sourceName name ≠ "..." := by
  have htable : ∀ source ∈ sourceNames, source.2 ≠ "..." := by decide +kernel
  rw [sourceName]
  rcases h : sourceNames.lookup name with - | target
  · decide
  · exact htable (name, target) (mem_of_lookup_eq_some h)

/-- No annotation for a type is an ellipsis. -/
theorem source_name_ne (t : TypeExpr) : t.source.name ≠ "..." := by
  obtain ⟨name, arguments, nullable, tuple⟩ := t
  rw [source]
  cases nullable with
  | false => exact sourceName_ne name
  | true =>
    show Text.ofString "Optional" ≠ "..."
    decide

end TypeExpr

namespace Annotation

open TypeExpr

/-- The name of a leaf has a name in the table that means it. -/
theorem arrange_sourceName_of_mem_leafNames {name : Text} (h : name ∈ leafNames) :
    arrange (Head.ofName (sourceName name)) [] [] = .named name := by
  have hheads : ∀ name ∈ leafNames, Head.ofName (sourceName name) = .scalar name ∨
      name = "PyObject" ∧ Head.ofName (sourceName name) = .dynamic := by decide +kernel
  rcases hheads name h with hhead | ⟨rfl, hhead⟩
  · rw [hhead]
    rfl
  · rw [hhead]
    rfl

theorem reflectEach_sourceEach {ts : List TypeExpr}
    (h : ∀ t ∈ ts, t.source.reflect = t) : reflectEach (sourceEach ts) = ts := by
  induction ts with
  | nil => rfl
  | cons t ts ih =>
    have hrest := ih fun s hs ↦ h s (List.mem_cons_of_mem t hs)
    rw [sourceEach, reflectEach, h t List.mem_cons_self, hrest]

/-- A tuple that no ellipsis ends is the tuple of its elements' types. -/
theorem arrange_tuple {arguments : List Annotation} {types : List TypeExpr}
    (hne : arguments ≠ []) (hnames : ∀ a ∈ arguments, a.name ≠ "...") :
    arrange .tuple arguments types = .tupleOf types := by
  rw [arrange.eq_def]
  dsimp only
  split
  · exact absurd rfl hne
  · rename_i second
    exact if_neg (hnames second (.tail _ (.head _)))
  · rfl

/-- **Every type of the grammar is the type of its annotation.** -/
theorem reflect_source {t : TypeExpr} (h : t.InGrammar) : t.source.reflect = t := by
  -- what has no mark is arranged from the types of its arguments
  have hplain : ∀ {name : Text} {arguments : List TypeExpr} {tuple : Bool} (head : Head),
      Head.ofName (sourceName name) = head →
      (∀ s ∈ arguments, s.source.reflect = s) →
        (source ⟨name, arguments, false, tuple⟩).reflect =
          arrange head (sourceEach arguments) arguments := by
    intro name arguments tuple head hhead harguments
    rw [source_of_not_nullable rfl, reflect, hhead, reflectEach_sourceEach harguments]
  induction h with
  | leaf hname =>
    rw [named, hplain _ rfl fun s hs ↦ absurd hs List.not_mem_nil]
    exact arrange_sourceName_of_mem_leafNames hname
  | list _ ih =>
    rw [generic, hplain .list (by decide +kernel) (by simpa using ih)]
    rfl
  | mapping _ _ ihkey ihvalue =>
    rw [generic, hplain .mapping (by decide +kernel) (by simpa using ⟨ihkey, ihvalue⟩)]
    rfl
  | single _ ih =>
    rw [generic, hplain .tuple (by decide +kernel) (by simpa using ih)]
    rfl
  | @tuple elements hlength _ ih =>
    have hne : sourceEach elements ≠ [] := by
      rw [sourceEach_eq_map, ne_eq, List.map_eq_nil_iff]
      rintro rfl
      exact absurd hlength (by decide)
    have hnames : ∀ a ∈ sourceEach elements, a.name ≠ "..." := by
      intro a ha
      rw [sourceEach_eq_map] at ha
      obtain ⟨t, -, rfl⟩ := List.mem_map.1 ha
      exact t.source_name_ne
    rw [hplain .tuple (by decide +kernel) ih, arrange_tuple hne hnames]
    -- a tuple of the grammar has two elements or more
    obtain - | ⟨first, - | ⟨second, rest⟩⟩ := elements
    · exact absurd rfl hne
    · exact absurd hlength (Nat.not_succ_le_self 1)
    · rfl
  | @nullable t hn _ ih =>
    have hhead : Head.ofName "Optional" = .optional := by decide +kernel
    rw [source_asNullable hn, reflect, hhead, reflectEach, reflectEach, ih]
    rfl

/-- **What reflecting annotations gives.** The types of annotations are those of the grammar, no
more and no fewer. Their texts consist of a few fixed words, so nothing of a name gets into them,
and hold no two question marks in a row; and the text of a type determines it. -/
theorem reflect_range :
    (∀ t : TypeExpr, t.InGrammar ↔ ∃ a : Annotation, a.reflect = t) ∧
    (∀ a : Annotation, a.reflect.render.IsMadeOf TypeExpr.words ∧
      ¬ Text.ofString "??" <:+: a.reflect.render) ∧
    (∀ a b : Annotation, a.reflect.render = b.reflect.render ↔ a.reflect = b.reflect) := by
  refine ⟨fun t ↦ ⟨fun h ↦ ⟨t.source, reflect_source h⟩, ?_⟩, fun a ↦ ?_, fun a b ↦ ?_⟩
  · rintro ⟨a, rfl⟩
    exact inGrammar_reflect a
  · exact ⟨(inGrammar_reflect a).isMadeOf_render, (inGrammar_reflect a).isSparse_render.not_infix⟩
  · refine ⟨fun h ↦ ?_, congrArg TypeExpr.render⟩
    have hends : FollowsType [] := Text.stopsRun_nil _
    exact (render_append_inj (inGrammar_reflect a) (inGrammar_reflect b) [] [] hends hends
      (congrArg (· ++ []) h)).1

end Annotation

end SignatureBridge
