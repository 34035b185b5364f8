import Mathlib.Data.List.Chain
import SignatureBridge.Proofs.Declaration.TypeGrammar

/-!
# What written types are made of

A type of the grammar is put together from a few fixed words, its names and the signs between them
(`InGrammar.isMadeOf_render`), and its text never has two question marks in a row
(`InGrammar.isSparse_render`). Both hold of the text of a type if they hold of the texts of its
arguments, since an argument stands between signs of the frame that it is written in.

Two question marks can only meet where two parts of a text do. So it is enough to see that the part
before does not end in one or that the part after does not start with one (`IsSparse.append`).
-/

namespace SignatureBridge

/-! ### Words -/

namespace Text

/-- The text consists of words of a list, one after the other. -/
def IsMadeOf (words : List Text) (t : Text) : Prop :=
  ∃ pieces : List Text, (∀ piece ∈ pieces, piece ∈ words) ∧ pieces.flatten = t

namespace IsMadeOf

variable {words : List Text}

theorem nil : IsMadeOf words [] := ⟨[], fun _ h ↦ absurd h List.not_mem_nil, rfl⟩

theorem word {t : Text} (h : t ∈ words) : IsMadeOf words t :=
  ⟨[t], fun _ ht ↦ List.mem_singleton.1 ht ▸ h, by simp⟩

theorem append {s t : Text} (hs : IsMadeOf words s) (ht : IsMadeOf words t) :
    IsMadeOf words (s ++ t) := by
  obtain ⟨pieces, hpieces, rfl⟩ := hs
  obtain ⟨pieces', hpieces', rfl⟩ := ht
  refine ⟨pieces ++ pieces', fun piece hpiece ↦ ?_, List.flatten_append⟩
  rcases List.mem_append.1 hpiece with hpiece | hpiece
  · exact hpieces piece hpiece
  · exact hpieces' piece hpiece

theorem join {sep : Text} (hsep : IsMadeOf words sep) {pieces : List Text}
    (h : ∀ piece ∈ pieces, IsMadeOf words piece) : IsMadeOf words (Text.join sep pieces) := by
  induction pieces with
  | nil => exact nil
  | cons piece pieces ih =>
    have hfirst := h piece List.mem_cons_self
    have hrest := ih fun p hp ↦ h p (List.mem_cons_of_mem piece hp)
    cases pieces with
    | nil => exact hfirst
    | cons next more => exact (hfirst.append hsep).append hrest

end IsMadeOf

/-! ### Question marks -/

/-- There are no two question marks in a row. -/
def IsSparse (t : Text) : Prop := t.IsChain fun c d ↦ c = 63 → d ≠ 63

namespace IsSparse

theorem of_not_mem {t : Text} (h : 63 ∉ t) : IsSparse t := by
  induction t with
  | nil => exact .nil
  | cons c t ih =>
    rw [List.mem_cons, not_or] at h
    cases t with
    | nil => exact .singleton c
    | cons d t => exact .cons_cons (fun hc ↦ absurd hc.symm h.1) (ih h.2)

/-- A text is sparse if its parts are and no two question marks meet between them. -/
theorem append {s t : Text} (hs : IsSparse s) (ht : IsSparse t)
    (h : s.getLast? ≠ some 63 ∨ t.head? ≠ some 63) : IsSparse (s ++ t) := by
  refine List.isChain_append.2 ⟨hs, ht, fun c hc d hd hmark heq ↦ ?_⟩
  rcases h with h | h
  · exact h (hmark ▸ hc)
  · exact h (heq ▸ hd)

theorem join {pieces : List Text} (h : ∀ piece ∈ pieces, IsSparse piece) :
    IsSparse (Text.join ", " pieces) := by
  induction pieces with
  | nil => exact .nil
  | cons piece pieces ih =>
    have hfirst := h piece List.mem_cons_self
    have hrest := ih fun p hp ↦ h p (List.mem_cons_of_mem piece hp)
    cases pieces with
    | nil => exact hfirst
    | cons next more =>
      have hsep : IsSparse ", " := of_not_mem (by decide)
      have hlast : (piece ++ Text.ofString ", ").getLast? ≠ some 63 := by
        rw [List.getLast?_append_of_ne_nil _ (by decide)]
        decide
      exact (hfirst.append hsep (.inr (by decide))).append hrest (.inl hlast)

theorem not_infix {t : Text} (h : IsSparse t) : ¬ Text.ofString "??" <:+: t := by
  intro hinfix
  have hpair : IsSparse [63, 63] := List.IsChain.infix h hinfix
  exact (List.isChain_cons_cons.1 hpair).1 rfl rfl

end IsSparse

end Text

/-! ### Written types -/

namespace TypeExpr

/-- The words of written types. -/
def words : List Text :=
  leafNames ++ ([("IReadOnlyList<" : Text), ("IReadOnlyDictionary<" : Text), ("ValueTuple<" : Text),
    ("(" : Text), (">" : Text), (")" : Text), (", " : Text), ("?" : Text)] : List Text)

theorem mark_cases (t : TypeExpr) : t.mark = [] ∨ t.mark = [63] := by
  rw [mark]
  split
  · exact .inr rfl
  · exact .inl rfl

/-- **A type of the grammar is written in the words of types.** -/
theorem InGrammar.isMadeOf_render {t : TypeExpr} (ht : t.InGrammar) :
    t.render.IsMadeOf words := by
  have hframes : ∀ f ∈ frames, f.opening ∈ words ∧
      f.close?.all (words.contains [·]) = true := by
    decide +kernel
  obtain ⟨f, hf, hfits⟩ := ht.exists_fits
  obtain ⟨hopening, hclosing⟩ := hframes f hf
  have harguments : ∀ piece ∈ t.arguments.map render, piece.IsMadeOf words := by
    intro piece hpiece
    obtain ⟨s, hs, rfl⟩ := List.mem_map.1 hpiece
    have hsize := sizeOf_lt_of_mem_arguments hs
    exact (ht.of_mem_arguments s hs).isMadeOf_render
  have hclose : Text.IsMadeOf words f.close?.toList := by
    rcases hc : f.close? with - | close
    · exact .nil
    · rw [hc] at hclosing
      exact .word (List.contains_iff_mem.1 hclosing)
  have hmark : t.mark.IsMadeOf words := by
    rcases t.mark_cases with h | h
    · exact h ▸ .nil
    · exact h ▸ .word (by decide)
  rw [hfits.render]
  exact (Text.IsMadeOf.word hopening).append
    ((Text.IsMadeOf.join (.word (by decide)) harguments).append (hclose.append hmark))
termination_by sizeOf t

/-- **A written type has no two question marks in a row.** -/
theorem InGrammar.isSparse_render {t : TypeExpr} (ht : t.InGrammar) : t.render.IsSparse := by
  have hframes : ∀ f ∈ frames, 63 ∉ f.opening ∧ 63 ∉ f.close?.toList := by decide +kernel
  obtain ⟨f, hf, hfits⟩ := ht.exists_fits
  obtain ⟨hopening, hclosing⟩ := hframes f hf
  have hends : ∀ {s : Text}, 63 ∉ s → s.getLast? ≠ some 63 := fun hs hlast ↦
    hs (List.mem_of_getLast? hlast)
  have harguments : (Text.join ", " (t.arguments.map render)).IsSparse := by
    refine Text.IsSparse.join fun piece hpiece ↦ ?_
    obtain ⟨s, hs, rfl⟩ := List.mem_map.1 hpiece
    have hsize := sizeOf_lt_of_mem_arguments hs
    exact (ht.of_mem_arguments s hs).isSparse_render
  have hmark : t.mark.IsSparse := by
    rcases t.mark_cases with h | h
    · exact h ▸ .nil
    · exact h ▸ .singleton 63
  have htail : Text.IsSparse (f.close?.toList ++ t.mark) :=
    (Text.IsSparse.of_not_mem hclosing).append hmark (.inl (hends hclosing))
  rw [hfits.render]
  refine (Text.IsSparse.of_not_mem hopening).append (harguments.append htail ?_)
    (.inl (hends hopening))
  -- the mark of the type itself is behind a closing sign, or there are no arguments
  rcases hclose : f.close? with - | close
  · left
    rw [hfits.arguments hclose]
    simp [Text.join]
  · right
    rw [hclose] at hclosing
    simpa [eq_comm] using hclosing
termination_by sizeOf t

end TypeExpr

end SignatureBridge
