import SignatureBridge.Proofs.Text.Cutting
import SignatureBridge.Proofs.Text.Delimited
import SignatureBridge.Reflection.Notes

/-!
# Annotations are determined by their printed form

An annotation is printed as its name, with its arguments between brackets and commas behind it. If
no name in it holds a bracket or a comma (`Annotation.HasPlainNames`), the printed form says which
annotation it is (`Annotation.printed_form_determines`). Names may be empty and may hold blanks, so
a blank behind a comma can belong to the separator or to a name.

An argument is followed by a comma or by a closing bracket, and by an opening one only if that
belongs to the argument itself. So the annotations to tell apart are those in front of such a text
(`FollowsAnnotation`). There the name ends at the first bracket or comma, the arguments are there
exactly if that is an opening bracket (`bracketed_append_inj`), and the induction goes through the
arguments (`tellsApart_text`).
-/

namespace SignatureBridge

namespace Annotation

/-! ### Printed forms -/

/-- A code point of a name that can be told from the brackets and the commas around names. -/
def isPlain (c : CodePoint) : Bool := c ≠ 91 && c ≠ 93 && c ≠ 44

/-- No name in an annotation, at any depth, holds a bracket or a comma. -/
inductive HasPlainNames : Annotation → Prop
  | mk {name : Text} {arguments : List Annotation} :
      name.all isPlain = true → (∀ a ∈ arguments, HasPlainNames a) →
        HasPlainNames { name, arguments }

/-- The arguments as they are printed behind the name; without arguments there are no brackets. -/
def bracketed : List Annotation → Text
  | [] => []
  | first :: rest => 91 :: (Text.join ", " ((first :: rest).map text) ++ [93])

theorem texts_eq_map (as : List Annotation) : texts as = as.map text := by
  induction as with
  | nil => rw [texts, List.map_nil]
  | cons a as ih => rw [texts, ih, List.map_cons]

/-- An annotation is printed as its name and then its arguments. -/
theorem text_eq (name : Text) (arguments : List Annotation) :
    text { name, arguments } = name ++ bracketed arguments := by
  cases arguments with
  | nil => rw [text, bracketed, List.append_nil]
  | cons first rest =>
    rw [text, texts_eq_map, ← List.map_cons, List.append_assoc, List.append_assoc]
    rfl

/-! ### Reading annotations back -/

/-- A text that may follow an annotation: it goes on with a comma or a closing bracket, if at
all. -/
def FollowsAnnotation (u : Text) : Prop := Text.StopsRun (fun c ↦ c ≠ 93 && c ≠ 44) u

theorem followsAnnotation_cons {c : CodePoint} (h : c = 93 ∨ c = 44) (u : Text) :
    FollowsAnnotation (c :: u) := by
  refine Text.stopsRun_cons ?_ u
  rcases h with rfl | rfl <;> decide

/-- The name ends where the arguments start, or else where the annotation does. -/
theorem stopsRun_bracketed_append {u : Text} (hu : FollowsAnnotation u) (as : List Annotation) :
    Text.StopsRun isPlain (bracketed as ++ u) := by
  cases as with
  | nil =>
    intro c hc
    have hfollows := hu c hc
    simp only [Bool.and_eq_false_iff] at hfollows
    simp only [isPlain, Bool.and_eq_false_iff]
    exact hfollows.imp_left Or.inr
  | cons first rest => exact Text.stopsRun_cons (by decide) _

theorem bracketed_cons_append_ne {u : Text} (hu : FollowsAnnotation u) (first : Annotation)
    (rest : List Annotation) (v : Text) : bracketed (first :: rest) ++ v ≠ u := by
  rintro rfl
  exact absurd (hu 91 rfl) (by decide)

theorem bracketed_cons_append (first : Annotation) (rest : List Annotation) (u : Text) :
    bracketed (first :: rest) ++ u =
      91 :: (first.text ++ ((rest.map text).flatMap (Text.ofString ", " ++ ·) ++ 93 :: u)) := by
  simp only [bracketed, List.map_cons, Text.join_cons, List.cons_append, List.append_assoc,
    List.nil_append]

/-- The arguments are told apart from what follows if each of them is. -/
theorem bracketed_append_inj {as bs : List Annotation} {u v : Text} (hu : FollowsAnnotation u)
    (hv : FollowsAnnotation v)
    (hitems : ∀ a ∈ as, ∀ b ∈ bs, Text.TellsApart FollowsAnnotation text id a b)
    (h : bracketed as ++ u = bracketed bs ++ v) : as = bs ∧ u = v := by
  cases as with
  | nil =>
    cases bs with
    | nil => exact ⟨rfl, h⟩
    | cons b bs => exact absurd h.symm (bracketed_cons_append_ne hu b bs v)
  | cons a as =>
    cases bs with
    | nil => exact absurd h (bracketed_cons_append_ne hv a as u)
    | cons b bs =>
      rw [bracketed_cons_append, bracketed_cons_append] at h
      -- the first argument has no separator in front, and it may be printed as nothing, so the
      -- lists are compared with one more separator in front of both
      have hseparated : ((a :: as).map text).flatMap (Text.ofString ", " ++ ·) ++ 93 :: u =
          ((b :: bs).map text).flatMap (Text.ofString ", " ++ ·) ++ 93 :: v := by
        simp only [List.map_cons, List.flatMap_cons, List.append_assoc, (List.cons.inj h).2]
      have hlists := Text.separated_append_inj
        (fun w ↦ followsAnnotation_cons (.inr rfl) (32 :: w))
        (followsAnnotation_cons (.inl rfl)) (fun _ _ heq ↦ absurd (List.cons.inj heq).1 (by decide))
        hitems hseparated
      rwa [List.map_id, List.map_id] at hlists

/-- **A printed annotation can be read back**, whatever follows it, as long as that goes on with a
comma or a closing bracket. -/
theorem tellsApart_text {a b : Annotation} (ha : a.HasPlainNames) (hb : b.HasPlainNames) :
    Text.TellsApart FollowsAnnotation text id a b := by
  induction ha generalizing b with
  | mk hname _ ih =>
    intro u v hu hv h
    obtain ⟨hname', harguments'⟩ := hb
    rw [text_eq, text_eq, List.append_assoc, List.append_assoc] at h
    obtain ⟨rfl, hrest⟩ := Text.run_append_inj hname hname' (stopsRun_bracketed_append hu _)
      (stopsRun_bracketed_append hv _) h
    obtain ⟨rfl, hend⟩ := bracketed_append_inj hu hv
      (fun a ha b hb ↦ ih a ha (harguments' b hb)) hrest
    exact ⟨rfl, hend⟩

/-- Annotations with one printed form are the same. -/
theorem eq_of_text_eq {a b : Annotation} (ha : a.HasPlainNames) (hb : b.HasPlainNames)
    (h : a.text = b.text) : a = b := by
  have hends : FollowsAnnotation [] := Text.stopsRun_nil _
  exact (tellsApart_text ha hb [] [] hends hends (by rw [h])).1

end Annotation

/-! ### Where annotations are printed -/

/-- What a parameter shows of its annotation. -/
def Parameter.shownType (p : Parameter) : Text :=
  if p.kind = .normal ∧ ¬ p.type.isAny then ": " ++ p.type.text else []

/-- Of two parameters that differ in nothing but their annotations and are printed the same, what is
shown of the annotations is the same. -/
theorem Parameter.shownType_eq_of_text_eq {p : Parameter} {a b : Annotation} {t : Text}
    (ha : { p with type := a }.text = .ok t) (hb : { p with type := b }.text = .ok t)
    (hkind : p.kind ≠ .positionalOnlyMarker) :
    { p with type := a }.shownType = { p with type := b }.shownType := by
  rw [text] at ha hb
  simp only [if_neg hkind] at ha hb
  rcases hdefault : p.default with - | c
  · rw [hdefault] at ha hb
    exact List.append_cancel_left (Except.ok.inj (ha.trans hb.symm))
  · rw [hdefault] at ha hb
    simp only at ha hb
    rcases hc : c.text with cause | d
    · rw [hc] at ha
      exact absurd ha (by simp [Except.map])
    · rw [hc] at ha hb
      have heq := Except.ok.inj (ha.trans hb.symm)
      simp only [List.append_assoc] at heq
      exact List.append_cancel_right
        (List.append_cancel_left (List.append_cancel_left heq))

namespace Annotation

/-- **The printed form of an annotation determines it**, among the annotations whose names hold
neither brackets nor commas. So a report on an annotation without a counterpart says which one is
meant. A printed parameter says so too: if two parameters that differ in nothing but their
annotations are printed the same, the annotations are the same or both are open, which shows
nothing. -/
theorem printed_form_determines {a b : Annotation} (ha : a.HasPlainNames) (hb : b.HasPlainNames) :
    (a.text = b.text ↔ a = b) ∧
      ((Reflection.Note.unmapped a).record = (Reflection.Note.unmapped b).record ↔ a = b) ∧
      ∀ (p : Parameter) (t : Text), p.kind = .normal →
        { p with type := a }.text = .ok t → { p with type := b }.text = .ok t →
          a = b ∨ a.isAny = true ∧ b.isAny = true := by
  have htext : a.text = b.text ↔ a = b := ⟨eq_of_text_eq ha hb, congrArg text⟩
  refine ⟨htext, ?_, fun p t hkind hta htb ↦ ?_⟩
  · refine ⟨fun h ↦ htext.1 ?_, fun h ↦ by rw [h]⟩
    have hmessage := congrArg Journal.Record.message h
    simp only [Reflection.Note.record, List.append_assoc] at hmessage
    exact List.append_cancel_right (List.append_cancel_left hmessage)
  · have hshown := Parameter.shownType_eq_of_text_eq hta htb (by rw [hkind]; decide)
    simp only [Parameter.shownType, hkind, true_and] at hshown
    cases hopen : a.isAny <;> cases hopen' : b.isAny
    · simp only [hopen, hopen', Bool.false_eq_true, not_false_eq_true, if_true] at hshown
      exact .inl (htext.1 (List.append_cancel_left hshown))
    · simp [hopen, hopen', Text.ofString] at hshown
    · simp [hopen, hopen', Text.ofString] at hshown
    · exact .inr ⟨rfl, rfl⟩

/-- An annotation with a blank in front of a name, or without. -/
def blankSample (blank : Text) : Annotation :=
  { name := "m"
    arguments := [{ name := [] }, { name := blank ++ "k", arguments := [{ name := [] }] }] }

/-- A blank in a name is told from the one behind a comma. -/
theorem printed_form_of_blankSample :
    (blankSample " ").HasPlainNames ∧ (blankSample []).HasPlainNames ∧
      (blankSample " ").text = "m[,  k[]]" ∧ (blankSample []).text = "m[, k[]]" ∧
      ((blankSample " ").text = (blankSample []).text ↔ blankSample " " = blankSample []) := by
  have hplain : ∀ blank : Text, blank.all isPlain = true → (blankSample blank).HasPlainNames := by
    intro blank hblank
    have hempty : HasPlainNames { name := [] } := .mk rfl (by simp)
    refine .mk (by decide) fun a ha ↦ ?_
    rcases List.mem_cons.1 ha with rfl | ha
    · exact hempty
    · obtain rfl := List.mem_singleton.1 ha
      refine .mk ?_ fun b hb ↦ ?_
      · rw [List.all_append, hblank]
        decide
      · obtain rfl := List.mem_singleton.1 hb
        exact hempty
  have hone := hplain " " (by decide)
  have hnone := hplain [] rfl
  exact ⟨hone, hnone, rfl, rfl, (printed_form_determines hone hnone).1⟩

end Annotation

end SignatureBridge
