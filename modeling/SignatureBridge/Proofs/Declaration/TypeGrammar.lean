import Mathlib.Data.List.Basic
import SignatureBridge.Declaration.TypeExpr
import SignatureBridge.Proofs.Text.Cutting
import SignatureBridge.Proofs.Text.Delimited

/-!
# The grammar of the C# types

`InGrammar` is the least set of type expressions that holds the dynamic type and the five scalar
types and is closed under read-only lists and dictionaries, tuples and the nullable mark. Within it
a written type can be read back, even in front of more text, as long as that text does not start
with a question mark, which would be drawn into the type (`render_append_inj`).

What carries the reading is that a type is written in one of ten frames: an opening, the arguments
between commas, possibly a closing code point, and possibly the mark (`exists_fits`). No opening is
the beginning of another (`frame_eq_of_opening`), so the frame of a written type is known from its
first code points. The induction is then on the type expression: the arguments are told apart by
`Text.join_append_inj`, since behind an argument comes a comma or a closing code point and never a
question mark that belongs to something else.
-/

namespace SignatureBridge

namespace TypeExpr

/-- The names of the types without arguments. -/
def leafNames : List Text := ["PyObject", "long", "double", "string", "bool", "byte[]"]

/-- The grammar of the C# types of annotations. -/
inductive InGrammar : TypeExpr → Prop where
  /-- The dynamic type or a scalar type. -/
  | leaf {name : Text} : name ∈ leafNames → InGrammar (named name)
  | list {element : TypeExpr} : InGrammar element → InGrammar (generic "IReadOnlyList" [element])
  | mapping {key value : TypeExpr} : InGrammar key → InGrammar value →
    InGrammar (generic "IReadOnlyDictionary" [key, value])
  /-- The tuple of one element. -/
  | single {element : TypeExpr} : InGrammar element → InGrammar (generic "ValueTuple" [element])
  /-- A tuple of at least two elements. -/
  | tuple {elements : List TypeExpr} : 2 ≤ elements.length →
    (∀ element ∈ elements, InGrammar element) →
      InGrammar { name := "ValueTuple", arguments := elements, tuple := true }
  /-- A type that is not marked yet, with the mark. -/
  | nullable {t : TypeExpr} : t.nullable = false → InGrammar t → InGrammar t.asNullable

/-! ### Closure -/

theorem asNullable_of_nullable {t : TypeExpr} (h : t.nullable = true) : t.asNullable = t := by
  obtain ⟨name, arguments, nullable, tuple⟩ := t
  rw [asNullable, ← h]

/-- The mark stays in the grammar, also where it is set already. -/
theorem InGrammar.asNullable {t : TypeExpr} (h : t.InGrammar) : t.asNullable.InGrammar := by
  rcases hn : t.nullable with - | -
  · exact .nullable hn h
  · rw [asNullable_of_nullable hn]
    exact h

/-- Every nonempty list of types of the grammar has its tuple in the grammar. -/
theorem InGrammar.tupleOf {elements : List TypeExpr} (hne : elements ≠ [])
    (h : ∀ element ∈ elements, element.InGrammar) :
    (TypeExpr.tupleOf elements).InGrammar := by
  rcases elements with - | ⟨first, - | ⟨second, rest⟩⟩
  · exact absurd rfl hne
  · exact .single (h first List.mem_cons_self)
  · exact .tuple (by simp) h

/-- The arguments of a type of the grammar are in the grammar. -/
theorem InGrammar.of_mem_arguments {t : TypeExpr} (h : t.InGrammar) :
    ∀ s ∈ t.arguments, s.InGrammar := by
  induction h with
  | leaf _ =>
    intro s hs
    exact absurd hs List.not_mem_nil
  | list helement =>
    intro s hs
    obtain rfl := List.mem_singleton.1 hs
    exact helement
  | mapping hkey hvalue =>
    intro s hs
    rcases List.mem_cons.1 hs with rfl | hs
    · exact hkey
    · obtain rfl := List.mem_singleton.1 hs
      exact hvalue
  | single helement =>
    intro s hs
    obtain rfl := List.mem_singleton.1 hs
    exact helement
  | tuple _ helements => exact helements
  | nullable _ _ ih => exact ih

/-! ### Frames -/

/-- The mark of a type as it is written. -/
def mark (t : TypeExpr) : Text := if t.nullable then [63] else []

/-- What is written around the arguments of the types of one name. -/
structure Frame where
  name : Text
  tuple : Bool
  opening : Text
  /-- Nothing for the types without arguments. -/
  close? : Option CodePoint
  deriving DecidableEq

/-- The frames of the grammar. -/
def frames : List Frame :=
  leafNames.map (fun name ↦ ⟨name, false, name, none⟩) ++
    [⟨"IReadOnlyList", false, "IReadOnlyList<", some 62⟩,
      ⟨"IReadOnlyDictionary", false, "IReadOnlyDictionary<", some 62⟩,
      ⟨"ValueTuple", false, "ValueTuple<", some 62⟩,
      ⟨"ValueTuple", true, "(", some 41⟩]

/-- A type is written in a frame. -/
structure Fits (t : TypeExpr) (f : Frame) : Prop where
  name : t.name = f.name
  tuple : t.tuple = f.tuple
  arguments : f.close? = none → t.arguments = []
  render : t.render =
    f.opening ++ (Text.join ", " (t.arguments.map TypeExpr.render) ++ (f.close?.toList ++ t.mark))

theorem renderEach_eq_map (ts : List TypeExpr) : renderEach ts = ts.map render := by
  induction ts with
  | nil => rfl
  | cons t ts ih => rw [renderEach, ih, List.map_cons]

/-- The mark is written behind everything else. -/
theorem render_asNullable {t : TypeExpr} (h : t.nullable = false) :
    t.asNullable.render = t.render ++ [63] := by
  obtain ⟨name, arguments, nullable, tuple⟩ := t
  obtain rfl : nullable = false := h
  rw [asNullable, render, render]
  rfl

theorem Fits.asNullable {t : TypeExpr} {f : Frame} (ht : t.nullable = false) (h : t.Fits f) :
    t.asNullable.Fits f := by
  refine ⟨h.name, h.tuple, h.arguments, ?_⟩
  have hmark : t.mark = [] := by rw [mark, ht]; rfl
  rw [render_asNullable ht, h.render, hmark, List.append_nil, List.append_assoc, List.append_assoc]
  rfl

theorem fits_named (name : Text) : (named name).Fits ⟨name, false, name, none⟩ := by
  refine ⟨rfl, rfl, fun _ ↦ rfl, ?_⟩
  show name = name ++ []
  rw [List.append_nil]

theorem fits_generic {name opening : Text} {arguments : List TypeExpr}
    (hopening : opening = name ++ [60]) (hne : arguments ≠ []) :
    (generic name arguments).Fits ⟨name, false, opening, some 62⟩ := by
  refine ⟨rfl, rfl, fun hnone ↦ absurd hnone (by simp), ?_⟩
  have hfull : arguments.isEmpty = false := by
    rw [List.isEmpty_eq_false_iff]
    exact hne
  rw [generic, render, renderEach_eq_map, hfull, hopening, List.append_assoc, List.append_assoc]
  rfl

/-- **Every type of the grammar is written in one of the frames.** -/
theorem InGrammar.exists_fits {t : TypeExpr} (h : t.InGrammar) : ∃ f ∈ frames, t.Fits f := by
  induction h with
  | leaf hname => exact ⟨_, List.mem_append_left _ (List.mem_map.2 ⟨_, hname, rfl⟩), fits_named _⟩
  | list _ => exact ⟨_, List.mem_append_right _ (.head _), fits_generic rfl (List.cons_ne_nil _ _)⟩
  | mapping _ _ =>
    exact ⟨_, List.mem_append_right _ (.tail _ (.head _)), fits_generic rfl (List.cons_ne_nil _ _)⟩
  | single _ =>
    exact ⟨_, List.mem_append_right _ (.tail _ (.tail _ (.head _))),
      fits_generic rfl (List.cons_ne_nil _ _)⟩
  | tuple _ _ =>
    refine ⟨_, List.mem_append_right _ (.tail _ (.tail _ (.tail _ (.head _)))), rfl, rfl,
      fun hnone ↦ absurd hnone (by simp), ?_⟩
    rw [render, renderEach_eq_map, List.append_assoc, List.append_assoc]
    rfl
  | nullable ht _ ih =>
    obtain ⟨f, hf, hfits⟩ := ih
    exact ⟨f, hf, hfits.asNullable ht⟩

/-- No opening is the beginning of another. -/
theorem frame_eq_of_opening {f g : Frame} (hf : f ∈ frames) (hg : g ∈ frames) {u v : Text}
    (h : f.opening ++ u = g.opening ++ v) : f = g := by
  have hfree : ∀ f ∈ frames, ∀ g ∈ frames, f.opening <+: g.opening → f = g := by decide +kernel
  have hprefix : f.opening <+: g.opening ++ v := ⟨u, h⟩
  rcases List.prefix_or_prefix_of_prefix hprefix (List.prefix_append g.opening v) with hp | hp
  -- whichever opening is the shorter one is the beginning of the other
  · exact hfree f hf g hg hp
  · exact (hfree g hg f hf hp).symm

/-! ### Reading types back -/

/-- A text that may follow a type: it does not start with a question mark. -/
def FollowsType (u : Text) : Prop := Text.StopsRun (· = 63) u

theorem followsType_cons {c : CodePoint} (h : c ≠ 63) (u : Text) : FollowsType (c :: u) :=
  Text.stopsRun_cons (decide_eq_false h) u

/-- The mark is told apart from what follows. -/
theorem mark_append_inj {s t : TypeExpr} {u v : Text} (hu : FollowsType u) (hv : FollowsType v)
    (h : s.mark ++ u = t.mark ++ v) : s.nullable = t.nullable ∧ u = v := by
  have hmark : ∀ t : TypeExpr, t.mark.all (· = 63) = true := by
    intro t
    rw [mark]
    split <;> rfl
  obtain ⟨heq, hrest⟩ := Text.run_append_inj (hmark s) (hmark t) hu hv h
  refine ⟨?_, hrest⟩
  rcases hs : s.nullable with - | - <;> rcases ht : t.nullable with - | -
    <;> simp [mark, hs, ht] at heq ⊢

/-- A closing code point does not start a type, and it is neither a question mark nor a comma. -/
theorem close_ne {f g : Frame} (hf : f ∈ frames) (hg : g ∈ frames) {close : CodePoint}
    (h : f.close? = some close) :
    close ≠ 63 ∧ close ≠ 44 ∧ ∀ u v, g.opening ++ u ≠ close :: v := by
  have hall : ∀ f ∈ frames, ∀ g ∈ frames,
      f.close? ≠ some 63 ∧ f.close? ≠ some 44 ∧ g.opening ≠ [] ∧
        (g.opening.head? = f.close? → f.close? = none) := by
    decide +kernel
  obtain ⟨hmark, hcomma, hne, hhead⟩ := hall f hf g hg
  refine ⟨fun heq ↦ hmark (heq ▸ h), fun heq ↦ hcomma (heq ▸ h), fun u v heq ↦ ?_⟩
  obtain ⟨c, rest, hopening⟩ := List.exists_cons_of_ne_nil hne
  rw [hopening] at heq
  have hstart : g.opening.head? = f.close? := by rw [hopening, h, ← (List.cons.inj heq).1]; rfl
  exact absurd (h.symm.trans (hhead hstart)) (by simp)

theorem InGrammar.render_append_ne {t : TypeExpr} (ht : t.InGrammar) {f : Frame} (hf : f ∈ frames)
    {close : CodePoint}
    (hclose : f.close? = some close) (u v : Text) : t.render ++ u ≠ close :: v := by
  obtain ⟨g, hg, hfits⟩ := ht.exists_fits
  rw [hfits.render, List.append_assoc]
  exact (close_ne hf hg hclose).2.2 _ _

theorem sizeOf_lt_of_mem_arguments {s t : TypeExpr} (h : s ∈ t.arguments) :
    sizeOf s < sizeOf t := by
  obtain ⟨name, arguments, nullable, tuple⟩ := t
  have hlt : sizeOf s < sizeOf arguments := List.sizeOf_lt_of_mem h
  simp only [mk.sizeOf_spec]
  omega

/-- **A written type can be read back**, whatever follows it, as long as that does not start with a
question mark. -/
theorem render_append_inj {s t : TypeExpr} (hs : s.InGrammar) (ht : t.InGrammar) :
    Text.TellsApart FollowsType render id s t := by
  intro u v hu hv h
  obtain ⟨f, hf, hfits⟩ := hs.exists_fits
  obtain ⟨g, hg, hfits'⟩ := ht.exists_fits
  rw [hfits.render, hfits'.render, List.append_assoc f.opening, List.append_assoc g.opening] at h
  -- both are written in one frame, so what is left to compare are the arguments and the marks
  obtain rfl := frame_eq_of_opening hf hg h
  have hinner := List.append_cancel_left h
  have harguments : s.arguments = t.arguments ∧ s.mark ++ u = t.mark ++ v := by
    rcases hclose : f.close? with - | close
    · rw [hfits.arguments hclose, hfits'.arguments hclose, hclose] at hinner
      exact ⟨by rw [hfits.arguments hclose, hfits'.arguments hclose], hinner⟩
    · rw [hclose] at hinner
      obtain ⟨hmark, hcomma, -⟩ := close_ne hf hf hclose
      have hsep : ∀ u, FollowsType (Text.ofString ", " ++ u) :=
        fun u ↦ followsType_cons (c := 44) (by decide) (32 :: u)
      have hdiffer : ∀ u v, Text.ofString ", " ++ u ≠ close :: v :=
        fun u v heq ↦ hcomma (List.cons.inj heq).1.symm
      have hitems : ∀ x ∈ s.arguments, ∀ y ∈ t.arguments,
          Text.TellsApart FollowsType render id x y := by
        intro x hx y hy
        have hsize := sizeOf_lt_of_mem_arguments hx
        exact render_append_inj (hs.of_mem_arguments x hx) (ht.of_mem_arguments y hy)
      have hlists := Text.join_append_inj hsep (followsType_cons hmark) hdiffer hitems
        (fun x hx ↦ (hs.of_mem_arguments x hx).render_append_ne hf hclose)
        (fun y hy ↦ (ht.of_mem_arguments y hy).render_append_ne hf hclose)
        (by simpa using hinner)
      rwa [List.map_id, List.map_id] at hlists
  obtain ⟨hnullable, hend⟩ := mark_append_inj hu hv harguments.2
  refine ⟨?_, hend⟩
  -- the frame fixes the name and the kind, the reading fixed the rest
  obtain ⟨name, arguments, nullable, tuple⟩ := s
  obtain ⟨name', arguments', nullable', tuple'⟩ := t
  obtain rfl : name = name' := hfits.name.trans hfits'.name.symm
  obtain rfl : tuple = tuple' := hfits.tuple.trans hfits'.tuple.symm
  obtain rfl : arguments = arguments' := harguments.1
  obtain rfl : nullable = nullable' := hnullable
  rfl
termination_by sizeOf s

/-! ### Letters of types -/

/-- A type of the grammar is written in printable letters of the ASCII range. -/
theorem InGrammar.bounds_of_mem_render {t : TypeExpr} (ht : t.InGrammar) {c : CodePoint}
    (hc : c ∈ t.render) :
    32 ≤ c.val ∧ c.val < 127 := by
  have hframes : ∀ f ∈ frames,
      (f.opening ++ f.close?.toList).all (fun c ↦ 32 ≤ c.val && c.val < 127) = true := by
    decide +kernel
  have hletters : ∀ {piece : Text}, piece.all (fun c ↦ 32 ≤ c.val && c.val < 127) = true →
      c ∈ piece → 32 ≤ c.val ∧ c.val < 127 := by
    intro piece hall hmem
    simpa using List.all_eq_true.1 hall c hmem
  obtain ⟨f, hf, hfits⟩ := ht.exists_fits
  have hframe := hframes f hf
  rw [hfits.render] at hc
  rcases List.mem_append.1 hc with hc | hc
  · exact hletters hframe (List.mem_append_left _ hc)
  · rcases List.mem_append.1 hc with hc | hc
    · rcases Text.mem_join hc with hc | ⟨piece, hpiece, hc⟩
      · exact hletters (by decide) hc
      · obtain ⟨s, hs, rfl⟩ := List.mem_map.1 hpiece
        have hsize := sizeOf_lt_of_mem_arguments hs
        exact (ht.of_mem_arguments s hs).bounds_of_mem_render hc
    · rcases List.mem_append.1 hc with hc | hc
      · exact hletters hframe (List.mem_append_right _ hc)
      · rw [mark] at hc
        split at hc
        · exact hletters (by decide) hc
        · exact absurd hc List.not_mem_nil
termination_by sizeOf t

end TypeExpr

end SignatureBridge
