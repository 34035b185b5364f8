import Mathlib.Data.List.Basic
import SignatureBridge.Text.Basic

/-!
# Telling written items apart

A text that is put together from items can be taken apart again if every item shows where it ends.
`TellsApart` says so for two items: where texts of a given class follow, the written items are equal
only if the items look the same, and then what follows is equal too. How an item looks is a
parameter, since a text need not show everything that an item holds.

The property passes from the items to a list of them in the two ways in which the library puts lists
together: between separators and in front of a closing code point (`join_append_inj`), and with a
line feed behind each (`lines_inj`). A line feed that occurs in no line also shows where the lines
end (`split_lines`).
-/

namespace SignatureBridge.Text

variable {α β : Type} {write : α → Text} {view : α → β}

/-- Where texts of the class `Ends` follow, the written forms of two items are equal only if the
items have the same view. -/
def TellsApart (Ends : Text → Prop) (write : α → Text) (view : α → β) (x y : α) : Prop :=
  ∀ u v, Ends u → Ends v → write x ++ u = write y ++ v → view x = view y ∧ u = v

/-! ### Lists between separators -/

/-- Joined pieces are the first one and then each of the others with the separator in front. -/
theorem join_cons (sep piece : Text) (pieces : List Text) :
    join sep (piece :: pieces) = piece ++ pieces.flatMap (sep ++ ·) := by
  induction pieces generalizing piece with
  | nil => rw [join, List.flatMap_nil, List.append_nil]
  | cons next pieces ih =>
    rw [join, ih, List.flatMap_cons, List.append_assoc, List.append_assoc]
    simp

section Separated

variable {Ends : Text → Prop} {sep : Text} {close : CodePoint}

/-- Items that each have the separator in front are told apart up to the closing code point. -/
theorem separated_append_inj (hsep : ∀ u, Ends (sep ++ u)) (hclose : ∀ u, Ends (close :: u))
    (hdiffer : ∀ u v, sep ++ u ≠ close :: v) {xs ys : List α} {u v : Text}
    (hitems : ∀ x ∈ xs, ∀ y ∈ ys, TellsApart Ends write view x y)
    (h : (xs.map write).flatMap (sep ++ ·) ++ close :: u =
      (ys.map write).flatMap (sep ++ ·) ++ close :: v) :
    xs.map view = ys.map view ∧ u = v := by
  -- behind an item comes the next separator or the closing code point
  have hends : ∀ (pieces : List Text) (w : Text),
      Ends (pieces.flatMap (sep ++ ·) ++ close :: w) := by
    intro pieces w
    cases pieces with
    | nil => exact hclose w
    | cons piece pieces =>
      rw [List.flatMap_cons, List.append_assoc, List.append_assoc]
      exact hsep _
  induction xs generalizing ys with
  | nil =>
    cases ys with
    | nil => exact ⟨rfl, (List.cons.inj h).2⟩
    | cons y ys =>
      rw [List.map_cons, List.flatMap_cons, List.append_assoc, List.append_assoc] at h
      exact absurd h.symm (hdiffer _ _)
  | cons x xs ih =>
    cases ys with
    | nil =>
      rw [List.map_cons, List.flatMap_cons, List.append_assoc, List.append_assoc] at h
      exact absurd h (hdiffer _ _)
    | cons y ys =>
      simp only [List.map_cons, List.flatMap_cons, List.append_assoc] at h
      have hrest := List.append_cancel_left h
      obtain ⟨hview, htail⟩ :=
        hitems x List.mem_cons_self y List.mem_cons_self _ _ (hends _ u) (hends _ v) hrest
      obtain ⟨hviews, hend⟩ := ih (fun x' hx' y' hy' ↦
        hitems x' (List.mem_cons_of_mem x hx') y' (List.mem_cons_of_mem y hy')) htail
      exact ⟨by rw [List.map_cons, List.map_cons, hview, hviews], hend⟩

/-- **A joined list is told apart from what follows** if its items are, if no item starts like the
closing code point, and if the separator does not either. -/
theorem join_append_inj (hsep : ∀ u, Ends (sep ++ u)) (hclose : ∀ u, Ends (close :: u))
    (hdiffer : ∀ u v, sep ++ u ≠ close :: v) {xs ys : List α} {u v : Text}
    (hitems : ∀ x ∈ xs, ∀ y ∈ ys, TellsApart Ends write view x y)
    (hxs : ∀ x ∈ xs, ∀ u v, write x ++ u ≠ close :: v)
    (hys : ∀ y ∈ ys, ∀ u v, write y ++ u ≠ close :: v)
    (h : join sep (xs.map write) ++ close :: u = join sep (ys.map write) ++ close :: v) :
    xs.map view = ys.map view ∧ u = v := by
  -- an empty list differs from any other at once: one text starts with the closing code point and
  -- the other does not
  cases xs with
  | nil =>
    cases ys with
    | nil => exact ⟨rfl, (List.cons.inj h).2⟩
    | cons y ys =>
      rw [List.map_cons, join_cons, List.append_assoc] at h
      exact absurd h.symm (hys y List.mem_cons_self _ _)
  | cons x xs =>
    cases ys with
    | nil =>
      rw [List.map_cons, join_cons, List.append_assoc] at h
      exact absurd h (hxs x List.mem_cons_self _ _)
    | cons y ys =>
      -- with a separator in front of the first items too, both lists are in the form of the lemma
      -- above
      refine separated_append_inj hsep hclose hdiffer hitems ?_
      rw [List.map_cons, List.map_cons, join_cons, join_cons, List.append_assoc,
        List.append_assoc] at h
      simp only [List.map_cons, List.flatMap_cons, List.append_assoc, h]

end Separated

theorem mem_join {sep : Text} {pieces : List Text} {c : CodePoint} (h : c ∈ join sep pieces) :
    c ∈ sep ∨ ∃ piece ∈ pieces, c ∈ piece := by
  cases pieces with
  | nil => exact absurd h List.not_mem_nil
  | cons first pieces =>
    rw [join_cons, List.mem_append, List.mem_flatMap] at h
    rcases h with h | ⟨piece, hpiece, h⟩
    · exact Or.inr ⟨first, List.mem_cons_self, h⟩
    · rcases List.mem_append.1 h with h | h
      · exact Or.inl h
      · exact Or.inr ⟨piece, List.mem_cons_of_mem first hpiece, h⟩

theorem mem_join_of_mem {sep piece : Text} {pieces : List Text} {c : CodePoint}
    (hpiece : piece ∈ pieces) (hc : c ∈ piece) :
    c ∈ join sep pieces := by
  cases pieces with
  | nil => exact absurd hpiece List.not_mem_nil
  | cons first pieces =>
    rw [join_cons, List.mem_append, List.mem_flatMap]
    rcases List.mem_cons.1 hpiece with rfl | hpiece
    · exact Or.inl hc
    · exact Or.inr ⟨piece, hpiece, List.mem_append_right sep hc⟩

/-! ### Lines -/

/-- **Lines are told apart** if their items are, where a line feed follows. -/
theorem lines_inj {xs ys : List α}
    (hitems : ∀ x ∈ xs, ∀ y ∈ ys, TellsApart (fun u ↦ ∃ w, u = 10 :: w) write view x y)
    (h : lines (xs.map write) = lines (ys.map write)) : xs.map view = ys.map view := by
  induction xs generalizing ys with
  | nil =>
    cases ys with
    | nil => rfl
    | cons y ys => exact absurd h (by simp [lines])
  | cons x xs ih =>
    cases ys with
    | nil => exact absurd h (by simp [lines])
    | cons y ys =>
      simp only [lines, List.map_cons, List.flatMap_cons, List.append_assoc] at h
      obtain ⟨hview, htail⟩ :=
        hitems x List.mem_cons_self y List.mem_cons_self _ _ ⟨_, rfl⟩ ⟨_, rfl⟩ h
      have hviews := ih (fun x' hx' y' hy' ↦
        hitems x' (List.mem_cons_of_mem x hx') y' (List.mem_cons_of_mem y hy'))
        (List.cons.inj htail).2
      rw [List.map_cons, List.map_cons, hview, hviews]

/-- A cut behind a text without the separator takes off the text. -/
theorem split_append_cons {sep : CodePoint} {piece : Text} (h : sep ∉ piece) (rest : Text) :
    split sep (piece ++ sep :: rest) = piece :: split sep rest := by
  induction piece with
  | nil => rw [List.nil_append, split, if_pos rfl]
  | cons c piece ih =>
    have hc : c ≠ sep := fun hc ↦ h (hc ▸ List.mem_cons_self)
    rw [List.cons_append, split, if_neg hc, ih (fun hmem ↦ h (List.mem_cons_of_mem c hmem))]

theorem split_of_not_mem {sep : CodePoint} {piece : Text} (h : sep ∉ piece) :
    split sep piece = [piece] := by
  induction piece with
  | nil => rfl
  | cons c piece ih =>
    have hc : c ≠ sep := fun hc ↦ h (hc ▸ List.mem_cons_self)
    rw [split, if_neg hc, ih (fun hmem ↦ h (List.mem_cons_of_mem c hmem))]

/-- A piece does not hold the separator. -/
theorem not_mem_of_mem_split {sep : CodePoint} {t piece : Text} (h : piece ∈ split sep t) :
    sep ∉ piece := by
  induction t generalizing piece with
  | nil =>
    rw [List.mem_singleton.1 h]
    exact List.not_mem_nil
  | cons c t ih =>
    rw [split] at h
    split_ifs at h with hc
    · rcases List.mem_cons.1 h with rfl | h
      · exact List.not_mem_nil
      · exact ih h
    · rcases hsplit : split sep t with - | ⟨first, pieces⟩
      · exact absurd hsplit (split_ne_nil sep t)
      · rw [hsplit] at h ih
        rcases List.mem_cons.1 h with rfl | h
        · exact List.not_mem_cons_of_ne_of_not_mem (Ne.symm hc) (ih List.mem_cons_self)
        · exact ih (List.mem_cons_of_mem first h)

/-- The pieces run together are the text without the separator. -/
theorem flatten_split (sep : CodePoint) (t : Text) :
    (split sep t).flatten = t.filter (· ≠ sep) := by
  induction t with
  | nil => rfl
  | cons c t ih =>
    rw [split]
    split_ifs with hc
    · rw [List.flatten_cons, List.nil_append, ih, List.filter_cons_of_neg (by simpa using hc)]
    · rcases hsplit : split sep t with - | ⟨first, pieces⟩
      · exact absurd hsplit (split_ne_nil sep t)
      · rw [hsplit] at ih
        rw [List.filter_cons_of_pos (by simpa using hc), ← ih]
        rfl

/-- Cutting at the separators gives the pieces back that were joined with them. -/
theorem split_join {sep : CodePoint} {pieces : List Text} (hne : pieces ≠ [])
    (h : ∀ piece ∈ pieces, sep ∉ piece) : split sep (join [sep] pieces) = pieces := by
  induction pieces with
  | nil => exact absurd rfl hne
  | cons first pieces ih =>
    cases pieces with
    | nil => exact split_of_not_mem (h first List.mem_cons_self)
    | cons second pieces =>
      have hrest := ih (List.cons_ne_nil second pieces) fun piece hpiece ↦
        h piece (List.mem_cons_of_mem first hpiece)
      show split sep (first ++ [sep] ++ join [sep] (second :: pieces)) = _
      rw [List.append_assoc, List.singleton_append,
        split_append_cons (h first List.mem_cons_self), hrest]

/-- Cutting at the line feeds gives the lines back, and the empty text behind the last one. -/
theorem split_lines {pieces : List Text} (h : ∀ piece ∈ pieces, 10 ∉ piece) :
    split 10 (lines pieces) = pieces ++ [[]] := by
  induction pieces with
  | nil => rfl
  | cons piece pieces ih =>
    have htail := ih fun p hp ↦ h p (List.mem_cons_of_mem piece hp)
    rw [lines, List.flatMap_cons, List.append_assoc]
    show split 10 (piece ++ 10 :: lines pieces) = piece :: (pieces ++ [[]])
    rw [split_append_cons (h piece List.mem_cons_self), htail]

end SignatureBridge.Text
