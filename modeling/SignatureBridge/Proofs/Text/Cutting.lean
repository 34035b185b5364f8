import Mathlib.Data.List.DropRight
import SignatureBridge.Text.Basic

/-!
# Cutting texts

What a reader needs to know about the ways to cut something off the ends of a text. Taking off a
given beginning is `List.dropPrefix?`, and so it succeeds exactly on the texts that have it
(`dropLeading?_eq_some_iff`). A run of code points of a class ends at the first code point outside
the class, so two runs are told apart if what follows starts outside (`run_append_inj`). Trimming
the end is `List.rdropWhile`. A trimmed text starts and ends outside the class (`stopsRun_trim`,
`stopsRun_reverse_trim`), and a text that does so is left alone by trimming (`trim_eq_self`).
-/

namespace SignatureBridge.Text

/-! ### Beginnings -/

theorem dropLeading?_eq_dropPrefix? (t lead : Text) : dropLeading? t lead = t.dropPrefix? lead := by
  induction lead generalizing t with
  | nil => cases t <;> rfl
  | cons l lead ih =>
    cases t with
    | nil => rfl
    | cons c t =>
      rw [dropLeading?, List.dropPrefix?, ih]
      simp only [beq_iff_eq, eq_comm (a := l)]

/-- A beginning is taken off exactly where it is. -/
theorem dropLeading?_eq_some_iff {t lead rest : Text} :
    dropLeading? t lead = some rest ↔ t = lead ++ rest := by
  rw [dropLeading?_eq_dropPrefix?, List.dropPrefix?_eq_some_iff]
  simp

theorem dropLeading?_append (lead rest : Text) : dropLeading? (lead ++ rest) lead = some rest :=
  dropLeading?_eq_some_iff.2 rfl

/-- A text without some code point of a beginning does not have that beginning. -/
theorem dropLeading?_eq_none_of_not_mem {t lead : Text} {c : CodePoint} (hc : c ∈ lead)
    (ht : c ∉ t) :
    dropLeading? t lead = none := by
  rcases h : dropLeading? t lead with - | rest
  · rfl
  · rw [dropLeading?_eq_some_iff] at h
    exact absurd (h ▸ List.mem_append_left rest hc) ht

/-! ### Runs -/

/-- A text goes on outside a class: it is empty or starts with a code point that is not in the
class. -/
def StopsRun (p : CodePoint → Bool) (t : Text) : Prop := ∀ c ∈ t.head?, p c = false

theorem stopsRun_nil (p : CodePoint → Bool) : StopsRun p [] := by
  intro c hc
  exact absurd hc (by simp)

theorem stopsRun_cons {p : CodePoint → Bool} {c : CodePoint} (hc : p c = false) (t : Text) :
    StopsRun p (c :: t) := by
  intro d hd
  obtain rfl : c = d := by simpa using hd
  exact hc

theorem takeWhile_run {p : CodePoint → Bool} {run rest : Text} (hrun : run.all p = true)
    (hrest : StopsRun p rest) :
    (run ++ rest).takeWhile p = run := by
  rw [List.takeWhile_append_of_pos (List.all_eq_true.1 hrun)]
  cases rest with
  | nil => simp
  | cons c rest =>
    rw [List.takeWhile_cons_of_neg (by rw [hrest c (by simp)]; decide), List.append_nil]

theorem dropWhile_run {p : CodePoint → Bool} {run rest : Text} (hrun : run.all p = true)
    (hrest : StopsRun p rest) :
    (run ++ rest).dropWhile p = rest := by
  rw [List.dropWhile_append_of_pos (List.all_eq_true.1 hrun)]
  cases rest with
  | nil => rfl
  | cons c rest => rw [List.dropWhile_cons_of_neg (by rw [hrest c (by simp)]; decide)]

/-- Dropping as many code points as a run has leaves what is behind it. -/
theorem drop_length_takeWhile (p : CodePoint → Bool) (t : Text) :
    t.drop (t.takeWhile p).length = t.dropWhile p := by
  have h := List.takeWhile_append_dropWhile (p := p) (l := t)
  exact List.append_cancel_left ((List.prefix_iff_eq_append.1 ⟨_, h⟩).trans h.symm)

/-- A run of one code point is so many copies of it. -/
theorem takeWhile_eq_replicate (c : CodePoint) (t : Text) :
    t.takeWhile (· = c) = List.replicate (t.takeWhile (· = c)).length c := by
  rw [List.eq_replicate_iff]
  exact ⟨rfl, fun d hd ↦ of_decide_eq_true (List.all_eq_true.1 List.all_takeWhile d hd)⟩

/-- What is left behind a run starts with something else. -/
theorem stopsRun_dropWhile (p : CodePoint → Bool) (t : Text) : StopsRun p (t.dropWhile p) := by
  intro c hc
  have hhead := List.head?_dropWhile_not p t
  rw [Option.mem_def.1 hc] at hhead
  simpa using hhead

/-- Two runs with what follows them are told apart. -/
theorem run_append_inj {p : CodePoint → Bool} {s t u v : Text} (hs : s.all p = true)
    (ht : t.all p = true) (hu : StopsRun p u) (hv : StopsRun p v) (h : s ++ u = t ++ v) :
    s = t ∧ u = v := by
  obtain rfl : s = t := by rw [← takeWhile_run hs hu, h, takeWhile_run ht hv]
  exact ⟨rfl, List.append_cancel_left h⟩

/-! ### Trimming -/

variable {p : CodePoint → Bool} {s t : Text}

/-- A beginning of a text goes on outside a class if the text does. -/
theorem StopsRun.of_isPrefix (h : StopsRun p t) (hst : s <+: t) : StopsRun p s := by
  rcases hst with ⟨u, rfl⟩
  intro c hc
  exact h c (by rw [List.head?_append, Option.mem_def.1 hc]; rfl)

theorem trimStart_eq_self (h : StopsRun p t) : trimStart p t = t :=
  dropWhile_run (List.all_nil : ([] : Text).all p = true) h

theorem trimEnd_eq_rdropWhile (p : CodePoint → Bool) (t : Text) :
    trimEnd p t = t.rdropWhile p :=
  rfl

theorem trimEnd_eq_self (h : StopsRun p t.reverse) : trimEnd p t = t := by
  rw [trimEnd_eq_rdropWhile, List.rdropWhile_eq_self_iff]
  intro hne
  rw [h _ (by rw [List.head?_reverse]; exact List.getLast?_eq_some_getLast hne)]
  exact Bool.false_ne_true

theorem stopsRun_reverse_trimEnd (p : CodePoint → Bool) (t : Text) :
    StopsRun p (trimEnd p t).reverse := by
  rw [trimEnd, List.reverse_reverse]
  exact stopsRun_dropWhile p t.reverse

theorem trimEnd_isPrefix (p : CodePoint → Bool) (t : Text) : trimEnd p t <+: t :=
  List.rdropWhile_prefix p t

/-- Something is left of a text that starts outside the class. -/
theorem trimEnd_ne_nil (ht : t ≠ []) (h : StopsRun p t) : trimEnd p t ≠ [] := by
  obtain ⟨c, rest, rfl⟩ := List.exists_cons_of_ne_nil ht
  rw [trimEnd_eq_rdropWhile, ne_eq, List.rdropWhile_eq_nil_iff]
  intro hall
  exact Bool.false_ne_true ((h c rfl).symm.trans (hall c List.mem_cons_self))

theorem stopsRun_trim (p : CodePoint → Bool) (t : Text) : StopsRun p (trim p t) :=
  (stopsRun_dropWhile p t).of_isPrefix (trimEnd_isPrefix p _)

theorem stopsRun_reverse_trim (p : CodePoint → Bool) (t : Text) : StopsRun p (trim p t).reverse :=
  stopsRun_reverse_trimEnd p _

theorem trim_isInfix (p : CodePoint → Bool) (t : Text) : trim p t <:+: t :=
  (trimEnd_isPrefix p _).isInfix.trans (List.dropWhile_suffix p).isInfix

/-- A text that starts and ends outside the class is left alone. -/
theorem trim_eq_self (hstart : StopsRun p t) (hend : StopsRun p t.reverse) : trim p t = t := by
  rw [trim, trimStart_eq_self hstart, trimEnd_eq_self hend]

end SignatureBridge.Text
