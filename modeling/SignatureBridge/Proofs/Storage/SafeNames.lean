import Mathlib.Data.List.Destutter
import SignatureBridge.Proofs.Text.Cutting
import SignatureBridge.Storage.FileName

/-!
# Safe names as a normal form

A replacement that is itself safe, and so has no backslash, is a template of itself
(`Template.parse_of_not_mem`), and `FileName.sanitize` has no other way to fail. Whatever it puts
together consists of letters of the name and of the replacement.

With a replacement of one letter the name is in normal form (`FileName.IsSafeName`). The collapse is
then the library's `List.destutter` for neighbours that are not both that letter, and each later
step keeps what the earlier ones have established: the trim takes an infix, the cut a prefix, and
the name for no name is safe itself. A name in normal form passes every step unchanged
(`FileName.IsSafeName.sanitize`), so the normal forms are the range of `sanitize` and its fixed
points.
-/

namespace SignatureBridge

/-! ### A text as a template of itself -/

/-- Without a backslash every code point is a unit. -/
theorem TemplateUnit.ofText_of_not_mem {t : Text} (h : 92 ∉ t) (position : Nat) :
    ∃ units : List TemplateUnit, ofText position t = (units, false) ∧
      units.map TemplateUnit.point = t ∧ ∀ u ∈ units, u.escaped = false := by
  induction t generalizing position with
  | nil => exact ⟨[], rfl, rfl, by simp⟩
  | cons c rest ih =>
    have hc : c ≠ 92 := fun hc ↦ h (hc ▸ List.mem_cons_self)
    cases rest with
    | nil => exact ⟨[⟨position, false, c⟩], if_neg hc, rfl, by simp⟩
    | cons e rest =>
      obtain ⟨units, hunits, hpoints, hplain⟩ :=
        ih (fun hmem ↦ h (List.mem_cons_of_mem c hmem)) (position + 1)
      refine ⟨⟨position, false, c⟩ :: units, ?_, by rw [List.map_cons, hpoints], ?_⟩
      · rw [ofText, if_neg hc, hunits]
      · simpa using hplain

namespace Template

/-- Units without backslashes stand for their code points. -/
theorem ofUnits_of_plain (whole : Text) {units : List TemplateUnit}
    (h : ∀ u ∈ units, u.escaped = false) (before : Template) :
    ofUnits whole units.length before units =
      .ok (before.reverse ++ units.map fun u ↦ .point u.point) := by
  induction units generalizing before with
  | nil => simp [ofUnits]
  | cons u units ih =>
    rw [List.length_cons, ofUnits, h u List.mem_cons_self]
    show ofUnits whole units.length (.point u.point :: before) units = _
    rw [ih fun v hv ↦ h v (List.mem_cons_of_mem u hv)]
    simp

/-- **A text without a backslash is a template of itself.** -/
theorem parse_of_not_mem {t : Text} (h : 92 ∉ t) : parse t = .ok (t.map .point) := by
  obtain ⟨units, hunits, hpoints, hplain⟩ := TemplateUnit.ofText_of_not_mem h 0
  rw [parse, hunits, ← hpoints, List.map_map]
  simp only [ofUnits_of_plain _ hplain]
  rfl

theorem fill_points (t found : Text) : fill (t.map .point) found = t := by
  rw [fill, List.flatMap_map]
  exact List.flatMap_singleton' t

end Template

/-! ### What a name is made of -/

/-- A safe code point is no backslash. -/
theorem CodePoint.ne_backslash {c : CodePoint} (h : c.isSafe = true) : c ≠ 92 := by
  rintro rfl
  exact absurd h (by decide)

namespace FileName

variable {name replacement t : Text}

theorem not_mem_of_all_isSafe (h : ∀ c ∈ replacement, c.isSafe) : 92 ∉ replacement :=
  fun hmem ↦ CodePoint.ne_backslash (h 92 hmem) rfl

/-- Nothing but safe code points and the replacement is left. -/
theorem all_replaceUnsafe (h : ∀ c ∈ replacement, c.isSafe) :
    ∀ c ∈ replaceUnsafe replacement name, c.isSafe := by
  intro c hc
  obtain ⟨d, -, hc⟩ := List.mem_flatMap.1 hc
  split at hc
  · rename_i hd
    rwa [List.mem_singleton.1 hc]
  · exact h c hc

theorem replaceUnsafe_eq_self (h : ∀ c ∈ name, c.isSafe) :
    replaceUnsafe replacement name = name := by
  induction name with
  | nil => rfl
  | cons c name ih =>
    rw [replaceUnsafe, List.flatMap_cons, if_pos (h c List.mem_cons_self)]
    exact congrArg (c :: ·) (ih fun d hd ↦ h d (List.mem_cons_of_mem c hd))

/-- Shrinking the runs brings in nothing but the replacement. -/
theorem mem_of_mem_collapseRuns (front : Text) (last : CodePoint) {c : CodePoint}
    (hc : c ∈ collapseRuns front last (replacement.map .point) t) : c ∈ t ∨ c ∈ replacement := by
  induction t using collapseRuns.induct front last with
  | case1 => rw [collapseRuns] at hc; exact absurd hc (by simp)
  | case2 d rest hrun repeats found ih =>
    rw [collapseRuns, if_pos hrun] at hc
    change c ∈ Template.fill _ found ++ _ at hc
    rw [Template.fill_points] at hc
    rcases List.mem_append.1 hc with hc | hc
    · exact .inr hc
    · exact (ih hc).imp_left fun hmem ↦ List.mem_cons_of_mem d (List.mem_of_mem_drop hmem)
  | case3 d rest hrun ih =>
    rw [collapseRuns, if_neg hrun] at hc
    rcases List.mem_cons.1 hc with rfl | hc
    · exact .inl List.mem_cons_self
    · exact (ih hc).imp_left (List.mem_cons_of_mem d)

/-- **A safe replacement is collapsed without fail**, and nothing else comes in. -/
theorem exists_collapse (hne : replacement ≠ []) (h : 92 ∉ replacement) (t : Text) :
    ∃ collapsed, collapse replacement t = .ok collapsed ∧
      ∀ c ∈ collapsed, c ∈ t ∨ c ∈ replacement := by
  rw [collapse]
  split
  · exact ⟨t, rfl, fun c ↦ .inl⟩
  · split
    · rename_i hnil
      exact absurd (List.reverse_eq_nil_iff.1 hnil) hne
    · rename_i last front hlast
      rw [Template.parse_of_not_mem h]
      exact ⟨_, rfl, fun c ↦ mem_of_mem_collapseRuns _ _⟩

/-- Behind the collapse nothing fails. -/
theorem sanitize_eq (hname : name ≠ []) {collapsed : Text}
    (h : collapse replacement (replaceUnsafe replacement name) = .ok collapsed) :
    sanitize name replacement =
      .ok (truncate replacement (orUnnamed (collapsed.trim replacement.contains))) := by
  rw [sanitize, if_neg hname, h]
  rfl

theorem all_unnamed : ∀ c ∈ unnamed, c.isSafe :=
  List.all_eq_true.1 (show unnamed.all CodePoint.isSafe = true by decide)

theorem orUnnamed_ne_nil (t : Text) : orUnnamed t ≠ [] := by
  rw [orUnnamed]
  split
  · decide
  · assumption

theorem orUnnamed_of_ne_nil (h : t ≠ []) : orUnnamed t = t := if_neg h

theorem all_orUnnamed (h : ∀ c ∈ t, c.isSafe) : ∀ c ∈ orUnnamed t, c.isSafe := by
  rw [orUnnamed]
  split
  · exact all_unnamed
  · exact h

theorem truncate_isPrefix (replacement t : Text) : truncate replacement t <+: t := by
  rw [truncate]
  split
  · exact (Text.trimEnd_isPrefix _ _).trans (List.take_prefix _ _)
  · exact List.prefix_rfl

theorem truncate_of_length_le (h : t.length ≤ lengthLimit) : truncate replacement t = t :=
  if_neg (by omega)

theorem length_truncate_le (replacement t : Text) :
    (truncate replacement t).length ≤ lengthLimit := by
  rw [truncate]
  split
  · exact (Text.trimEnd_isPrefix _ _).length_le.trans (List.length_take_le _ _)
  · omega

/-- The cut leaves something of a text that it does not trim at the front. -/
theorem truncate_ne_nil (ht : t ≠ []) (h : Text.StopsRun replacement.contains t) :
    truncate replacement t ≠ [] := by
  rw [truncate]
  split
  · refine Text.trimEnd_ne_nil ?_ (h.of_isPrefix (List.take_prefix _ _))
    exact fun hnil ↦ (List.take_eq_nil_iff.1 hnil).elim (by decide) ht
  · exact ht

/-- The cut leaves something of any name: the name for no name is short, and every other is trimmed
at the front before it is cut. -/
theorem truncate_orUnnamed_ne_nil (h : Text.StopsRun replacement.contains t) :
    truncate replacement (orUnnamed t) ≠ [] := by
  by_cases ht : t = []
  · subst ht
    rw [truncate_of_length_le (by decide)]
    exact orUnnamed_ne_nil []
  · rw [orUnnamed_of_ne_nil ht]
    exact truncate_ne_nil ht h

/-- **Any safe replacement gives a safe name**, not empty and not too long. -/
theorem exists_sanitize (name : Text) (hne : replacement ≠ []) (h : ∀ c ∈ replacement, c.isSafe) :
    ∃ t, sanitize name replacement = .ok t ∧ t ≠ [] ∧ t.length ≤ lengthLimit ∧
      ∀ c ∈ t, c.isSafe := by
  by_cases hname : name = []
  · exact ⟨unnamed, if_pos hname, by decide, by decide, all_unnamed⟩
  obtain ⟨collapsed, hcollapsed, hmem⟩ :=
    exists_collapse hne (not_mem_of_all_isSafe h) (replaceUnsafe replacement name)
  have hsafe : ∀ c ∈ collapsed, c.isSafe :=
    fun c hc ↦ (hmem c hc).elim (all_replaceUnsafe h c) (h c)
  have htrim : ∀ c ∈ collapsed.trim replacement.contains, c.isSafe :=
    fun c hc ↦ hsafe c ((Text.trim_isInfix _ _).subset hc)
  exact ⟨_, sanitize_eq hname hcollapsed, truncate_orUnnamed_ne_nil (Text.stopsRun_trim _ _),
    length_truncate_le _ _, fun c hc ↦ all_orUnnamed htrim c ((truncate_isPrefix _ _).subset hc)⟩

end FileName

/-! ### Runs of one letter -/

/-- Two code points are not both a given one. -/
def CodePoint.Apart (r a b : CodePoint) : Prop := a ≠ r ∨ b ≠ r

instance (r : CodePoint) : DecidableRel r.Apart := fun _ _ ↦ inferInstanceAs (Decidable (_ ∨ _))

namespace FileName

open CodePoint (Apart)

variable {r : CodePoint} {name t : Text}

/-- A code point that goes with every neighbour is kept. -/
theorem destutter_cons_of_ne {c : CodePoint} (hc : c ≠ r) (t : Text) :
    (c :: t).destutter r.Apart = c :: t.destutter r.Apart := by
  cases t with
  | nil => rfl
  | cons d t => exact List.destutter'_cons_pos t (.inl hc)

/-- After the letter, the rest of its run is dropped. -/
theorem destutter_cons_self (r : CodePoint) (t : Text) :
    (r :: t).destutter r.Apart = r :: (t.dropWhile (· = r)).destutter r.Apart := by
  induction t with
  | nil => rfl
  | cons d t ih =>
    by_cases hd : d = r
    · subst hd
      rw [List.dropWhile_cons_of_pos (by simp), ← ih]
      exact List.destutter'_cons_neg t (by simp [Apart])
    · rw [List.dropWhile_cons_of_neg (by simpa using hd)]
      exact List.destutter'_cons_pos t (.inr hd)

/-- **Shrinking the runs of a letter drops each repetition of it**, as `List.destutter` does. -/
theorem collapseRuns_singleton (r : CodePoint) (t : Text) :
    collapseRuns [] r [.point r] t = t.destutter r.Apart := by
  induction t using collapseRuns.induct [] r with
  | case1 => rw [collapseRuns]; rfl
  | case2 c rest hrun repeats found ih =>
    obtain rfl : r = c := by simpa using hrun
    have hrest : rest.drop (found.length - 1) = rest.dropWhile (· = r) := by
      show rest.drop (((r :: rest).takeWhile (· = r)).length - 1) = _
      rw [List.takeWhile_cons_of_pos (by simp), List.length_cons, Nat.add_sub_cancel]
      exact Text.drop_length_takeWhile (· = r) rest
    rw [collapseRuns, if_pos hrun, destutter_cons_self, ← hrest, ← ih]
    rfl
  | case3 c rest hrun ih =>
    have hc : c ≠ r := fun hc ↦ hrun (by simp [hc])
    rw [collapseRuns, if_neg hrun, destutter_cons_of_ne hc, ih]

/-- A letter occurs exactly where it is a member. -/
theorem occursIn_singleton (r : CodePoint) (t : Text) : Text.occursIn [r] t = true ↔ r ∈ t := by
  induction t with
  | nil => simp [Text.occursIn]
  | cons c t ih => simp [Text.occursIn, ih]

/-- A text without a letter has no run of it. -/
theorem isChain_of_not_mem (h : r ∉ t) : t.IsChain r.Apart := by
  refine List.isChain_iff_forall_rel_of_append_cons_cons.2 ?_
  rintro a b before after rfl
  exact .inl fun ha ↦ h (ha ▸ by simp)

theorem collapse_singleton (hr : r ≠ 92) (t : Text) :
    collapse [r] t = .ok (t.destutter r.Apart) := by
  rw [collapse]
  split
  · rename_i h
    have hmem : r ∉ t := fun hmem ↦ by simp [(occursIn_singleton r t).2 hmem] at h
    rw [List.destutter_of_isChain _ t (isChain_of_not_mem hmem)]
  · show (Template.parse [r]).map _ = _
    rw [Template.parse_of_not_mem (by simpa using hr.symm)]
    exact congrArg Except.ok (collapseRuns_singleton r t)

/-! ### The normal form -/

/-- A text that a replacement of one letter leaves alone, but perhaps for its length. It is safe and
not empty, neither starts nor ends with the replacement, and no two neighbours are both the
replacement. -/
structure IsTidy (r : CodePoint) (t : Text) : Prop where
  ne_nil : t ≠ []
  all_isSafe : ∀ c ∈ t, c.isSafe
  head_ne : t.head? ≠ some r
  last_ne : t.getLast? ≠ some r
  apart : t.IsChain r.Apart

/-- A name in normal form for a replacement of one letter. -/
structure IsSafeName (r : CodePoint) (t : Text) : Prop extends IsTidy r t where
  length_le : t.length ≤ 200

theorem stopsRun_singleton : Text.StopsRun ([r] : Text).contains t ↔ t.head? ≠ some r := by
  rcases t with - | ⟨c, t⟩
  · exact ⟨fun _ ↦ by simp, fun _ ↦ Text.stopsRun_nil _⟩
  · simp [Text.StopsRun]

theorem stopsRun_reverse_singleton :
    Text.StopsRun ([r] : Text).contains t.reverse ↔ t.getLast? ≠ some r := by
  rw [stopsRun_singleton, List.head?_reverse]

theorem isTidy_unnamed (hu : r ∉ unnamed) : IsTidy r unnamed where
  ne_nil := by decide
  all_isSafe := all_unnamed
  head_ne h := hu (List.mem_of_mem_head? h)
  last_ne h := hu (List.mem_of_mem_getLast? h)
  apart := isChain_of_not_mem hu

/-- The trim leaves a tidy text of one without runs, or nothing, and then the name for no name takes
its place. -/
theorem isTidy_orUnnamed_trim (hu : r ∉ unnamed) (hsafe : ∀ c ∈ t, c.isSafe)
    (happart : t.IsChain r.Apart) : IsTidy r (orUnnamed (t.trim ([r] : Text).contains)) := by
  by_cases hnil : t.trim ([r] : Text).contains = []
  · rw [hnil]
    exact isTidy_unnamed hu
  · rw [orUnnamed_of_ne_nil hnil]
    have hpart := Text.trim_isInfix ([r] : Text).contains t
    exact
      { ne_nil := hnil
        all_isSafe := fun c hc ↦ hsafe c (hpart.subset hc)
        head_ne := stopsRun_singleton.1 (Text.stopsRun_trim _ t)
        last_ne := stopsRun_reverse_singleton.1 (Text.stopsRun_reverse_trim _ t)
        apart := happart.infix hpart }

/-- The cut exposes no replacement at the end, since it is trimmed. -/
theorem IsTidy.isSafeName_truncate (h : IsTidy r t) : IsSafeName r (truncate [r] t) where
  ne_nil := truncate_ne_nil h.ne_nil (stopsRun_singleton.2 h.head_ne)
  all_isSafe c hc := h.all_isSafe c ((truncate_isPrefix _ _).subset hc)
  head_ne := stopsRun_singleton.1
    ((stopsRun_singleton.2 h.head_ne).of_isPrefix (truncate_isPrefix _ _))
  last_ne := by
    rw [truncate]
    split
    · exact stopsRun_reverse_singleton.1 (Text.stopsRun_reverse_trimEnd _ _)
    · exact h.last_ne
  apart := h.apart.prefix (truncate_isPrefix _ _)
  length_le := length_truncate_le _ _

theorem sanitize_singleton (hr : r ≠ 92) (hname : name ≠ []) :
    sanitize name [r] =
      .ok (truncate [r] (orUnnamed
        (Text.trim ([r] : Text).contains ((replaceUnsafe [r] name).destutter r.Apart)))) :=
  sanitize_eq hname (collapse_singleton hr _)

/-- A tidy text is at most cut. -/
theorem IsTidy.sanitize (hr : r ≠ 92) (h : IsTidy r t) : sanitize t [r] = .ok (truncate [r] t) := by
  rw [sanitize_singleton hr h.ne_nil, replaceUnsafe_eq_self h.all_isSafe,
    List.destutter_of_isChain _ t h.apart,
    Text.trim_eq_self (stopsRun_singleton.2 h.head_ne) (stopsRun_reverse_singleton.2 h.last_ne),
    orUnnamed_of_ne_nil h.ne_nil]

/-- **A name in normal form is a fixed point.** -/
theorem IsSafeName.sanitize (hr : r ≠ 92) (h : IsSafeName r t) : sanitize t [r] = .ok t := by
  rw [h.toIsTidy.sanitize hr, truncate_of_length_le h.length_le]

/-- **Every name gets a normal form** if the replacement is safe and the name for no name is without
it. -/
theorem exists_isSafeName (hr : r.isSafe = true) (hu : r ∉ unnamed) (name : Text) :
    ∃ t, sanitize name [r] = .ok t ∧ IsSafeName r t := by
  by_cases hname : name = []
  · exact ⟨unnamed, if_pos hname, { isTidy_unnamed hu with length_le := by decide }⟩
  have hsafe : ∀ c ∈ (replaceUnsafe [r] name).destutter r.Apart, c.isSafe := fun c hc ↦
    all_replaceUnsafe (by simpa using hr) c ((List.destutter_sublist _ _).subset hc)
  exact ⟨_, sanitize_singleton (CodePoint.ne_backslash hr) hname,
    (isTidy_orUnnamed_trim hu hsafe (List.isChain_destutter _ _)).isSafeName_truncate⟩

/-- **Sanitizing produces a normal form.** Any replacement that is safe and not empty gives a name
that is safe, not empty and at most two hundred letters long, whatever it is made from. With an
underscore, a hyphen or a dot the names in normal form are the fixed points and the range. -/
theorem sanitize_normal_form :
    (∀ name replacement : Text, replacement ≠ [] → (∀ c ∈ replacement, c.isSafe) →
      ∃ t, sanitize name replacement = .ok t ∧ t ≠ [] ∧ t.length ≤ 200 ∧ ∀ c ∈ t, c.isSafe) ∧
    ∀ r ∈ ([95, 45, 46] : List CodePoint),
      (∀ name, ∃ t, sanitize name [r] = .ok t ∧ IsSafeName r t) ∧
      (∀ t, IsSafeName r t → sanitize t [r] = .ok t) ∧
      (∀ name t, sanitize name [r] = .ok t → sanitize t [r] = .ok t) ∧
      ∀ t, (∃ name, sanitize name [r] = .ok t) ↔ IsSafeName r t := by
  refine ⟨fun name replacement hne hsafe ↦ exists_sanitize name hne hsafe, fun r hmem ↦ ?_⟩
  have hr : r.isSafe = true ∧ r ∉ unnamed := by
    obtain rfl | rfl | rfl : r = 95 ∨ r = 45 ∨ r = 46 := by simpa using hmem
    all_goals decide
  have hfixed : ∀ t, IsSafeName r t → sanitize t [r] = .ok t :=
    fun t ht ↦ ht.sanitize (CodePoint.ne_backslash hr.1)
  have hrange : ∀ name t, sanitize name [r] = .ok t → IsSafeName r t := by
    intro name t ht
    obtain ⟨t', ht', hsafe⟩ := exists_isSafeName hr.1 hr.2 name
    obtain rfl : t' = t := Except.ok.inj (ht'.symm.trans ht)
    exact hsafe
  exact ⟨exists_isSafeName hr.1 hr.2, hfixed, fun name t ht ↦ hfixed t (hrange name t ht),
    fun t ↦ ⟨fun ⟨name, ht⟩ ↦ hrange name t ht, fun ht ↦ ⟨t, hfixed t ht⟩⟩⟩

theorem sanitize_normal_form_of_samples :
    (∃ t, sanitize " a/b" "-_" = .ok t ∧ t ≠ [] ∧ t.length ≤ 200 ∧ ∀ c ∈ t, c.isSafe) ∧
    (∃ t, sanitize "/a  b__c." "_" = .ok t ∧ IsSafeName 95 t) ∧
    sanitize "a_b_c." "_" = .ok ("a_b_c." : Text) := by
  have hsample : IsSafeName 95 "a_b_c." :=
    { ne_nil := by decide
      all_isSafe := List.all_eq_true.1 (by decide)
      head_ne := by decide
      last_ne := by decide
      apart := by decide
      length_le := by decide }
  exact ⟨sanitize_normal_form.1 " a/b" "-_" (by decide) (List.all_eq_true.1 (by decide)),
    (sanitize_normal_form.2 95 (by decide)).1 "/a  b__c.",
    (sanitize_normal_form.2 95 (by decide)).2.1 "a_b_c." hsample⟩

end FileName

end SignatureBridge
