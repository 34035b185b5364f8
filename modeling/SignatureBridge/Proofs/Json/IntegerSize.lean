import Mathlib.Data.List.TakeDrop
import SignatureBridge.Json.Reader
import SignatureBridge.Proofs.Number.Digits
import SignatureBridge.Proofs.Outcome

/-!
# JSON values without overlong integers

A JSON value may hold integers of any size, but one of more than `digitLimit` digits cannot be
written in a message. `Json.WithinLimit` says that a value holds none. Such a value can be shown
(`WithinLimit.exists_shown`), and reading a text under the limit gives no other
(`withinLimit_of_read`): the reader counts the digits of an integer before it takes their value.
-/

namespace SignatureBridge

theorem pow_ten_le {k l : Nat} (h : k ≤ l) : Nat.pow 10 k ≤ Nat.pow 10 l :=
  Nat.pow_le_pow_right (by decide) h

namespace Json

/-- A value in which no integer has more than `digitLimit` digits. -/
inductive WithinLimit : Json → Prop
  | null : WithinLimit .null
  | bool (b : Bool) : WithinLimit (.bool b)
  | int {n : Int} (h : n.natAbs < Nat.pow 10 digitLimit) : WithinLimit (.int n)
  | double (x : Binary64) : WithinLimit (.double x)
  | text (t : Text) : WithinLimit (.text t)
  | array {items : List Json} (h : ∀ item ∈ items, WithinLimit item) : WithinLimit (.array items)
  | object {members : List (Text × Json)} (h : ∀ member ∈ members, WithinLimit member.2) :
    WithinLimit (.object members)

/-! ### Parts of a value -/

@[simp] theorem withinLimit_null : WithinLimit .null := .null

@[simp] theorem withinLimit_bool (b : Bool) : WithinLimit (.bool b) := .bool b

@[simp] theorem withinLimit_double (x : Binary64) : WithinLimit (.double x) := .double x

@[simp] theorem withinLimit_text (t : Text) : WithinLimit (.text t) := .text t

@[simp] theorem withinLimit_int {n : Int} :
    WithinLimit (.int n) ↔ n.natAbs < Nat.pow 10 digitLimit :=
  ⟨fun h ↦ by cases h; assumption, .int⟩

/-- The integers that fit 64 bits are far from the limit. -/
theorem withinLimit_of_lt {n : Int} (h : n.natAbs < Nat.pow 10 20) : WithinLimit (.int n) :=
  withinLimit_int.2 (Nat.lt_of_lt_of_le h (pow_ten_le (show 20 ≤ digitLimit by decide)))

@[simp] theorem withinLimit_array {items : List Json} :
    WithinLimit (.array items) ↔ ∀ item ∈ items, WithinLimit item :=
  ⟨fun h ↦ by cases h; assumption, .array⟩

@[simp] theorem withinLimit_object {members : List (Text × Json)} :
    WithinLimit (.object members) ↔ ∀ member ∈ members, WithinLimit member.2 :=
  ⟨fun h ↦ by cases h; assumption, .object⟩

theorem mem_of_member? {name : Text} {members : List (Text × Json)} {value : Json}
    (h : member? name members = some value) :
    (name, value) ∈ members := by
  obtain ⟨⟨name', value'⟩, hfind, rfl⟩ := Option.map_eq_some_iff.1 h
  have hname : name' = name := by simpa using List.find?_some hfind
  exact hname ▸ List.mem_of_find?_eq_some hfind

theorem WithinLimit.member {members : List (Text × Json)} (h : WithinLimit (.object members))
    {name : Text} {value : Json} (hvalue : member? name members = some value) :
    WithinLimit value :=
  withinLimit_object.1 h _ (mem_of_member? hvalue)

theorem WithinLimit.memberOrNull {members : List (Text × Json)} (h : WithinLimit (.object members))
    (name : Text) : WithinLimit ((member? name members).getD .null) := by
  rcases hvalue : member? name members with - | value
  · exact .null
  · exact h.member hvalue

/-! ### Showing a value -/

/-- The digits before the point of a number are decimal digits. -/
theorem all_isAsciiDigit_of_unsignedNumber? {s whole decimals rest : Text}
    (h : unsignedNumber? s = some (whole, decimals, rest)) :
    whole.all CodePoint.isAsciiDigit = true := by
  obtain ⟨⟨whole', afterWhole⟩, hwhole, hparts⟩ := Option.map_eq_some_iff.1 h
  obtain rfl : whole' = whole := (Prod.mk.inj hparts).1
  split at hwhole
  · exact absurd hwhole (by simp)
  · split at hwhole
    · obtain rfl := (Prod.mk.inj (Option.some.inj hwhole)).1
      decide
    · split at hwhole
      · have hspan := Option.some.inj hwhole
        rw [List.span_eq_takeWhile_dropWhile] at hspan
        rw [← (Prod.mk.inj hspan).1]
        exact List.all_takeWhile
      · exact absurd hwhole (by simp)

theorem exists_hexValue?_of_isAsciiDigit {c : CodePoint} (h : c.isAsciiDigit = true) :
    ∃ d, c.hexValue? = some d ∧ d < 10 := by
  have hbounds : (48 ≤ c.val && c.val ≤ 57) = true := h
  refine ⟨c.val - 48, by rw [CodePoint.hexValue?, if_pos hbounds], ?_⟩
  simp only [Bool.and_eq_true, decide_eq_true_eq] at hbounds
  omega

/-- A run of digits denotes a number below the power of ten that belongs to their count. -/
theorem ofDigits_lt_of_isAsciiDigit {whole : Text} {limit : Nat}
    (h : whole.all CodePoint.isAsciiDigit = true)
    (hlength : (whole.filterMap CodePoint.hexValue?).length ≤ limit) :
    ofDigits 10 (whole.filterMap CodePoint.hexValue?) < Nat.pow 10 limit := by
  refine Nat.lt_of_lt_of_le (ofDigits_lt_pow ?_) (pow_ten_le hlength)
  intro d hd
  obtain ⟨c, hc, hvalue⟩ := List.mem_filterMap.1 hd
  obtain ⟨d', hd', hlt⟩ := exists_hexValue?_of_isAsciiDigit (List.all_eq_true.1 h c hc)
  obtain rfl : d' = d := Option.some.inj (hd'.symm.trans hvalue)
  exact hlt

/-- **A number that is read under the limit is within it**: its digits were counted. -/
theorem withinLimit_of_number {s rest : Text} {j : Json}
    (h : number (some digitLimit) s = .ok (j, rest)) : j.WithinLimit := by
  simp only [number] at h
  split at h
  · exact absurd h (by simp)
  · rename_i whole afterNumber hunsigned
    split at h
    · exact absurd h (by simp)
    · rename_i hcount
      have hlength : (whole.filterMap CodePoint.hexValue?).length ≤ digitLimit := by
        simpa using hcount
      have hlt :=
        ofDigits_lt_of_isAsciiDigit (all_isAsciiDigit_of_unsignedNumber? hunsigned) hlength
      rw [← (Prod.mk.inj (Except.ok.inj h)).1]
      have hsign : ∀ (negative : Bool) (n : Nat),
          (if negative then -(n : Int) else (n : Int)).natAbs = n := by
        intro negative n
        cases negative <;> simp
      exact .int ((hsign _ _).symm ▸ hlt)
  · split at h
    · rw [← (Prod.mk.inj (Except.ok.inj h)).1]
      exact .double _
    · exact absurd h (by simp)

theorem withinLimit_of_word? {s rest : Text} {j : Json} (h : word? s = some (j, rest)) :
    j.WithinLimit := by
  obtain ⟨⟨word, value⟩, hmem, hrest⟩ := List.exists_of_findSome?_eq_some h
  obtain ⟨rest', -, hpair⟩ := Option.map_eq_some_iff.1 hrest
  rw [← (Prod.mk.inj hpair).1]
  simp only [words, List.mem_cons, Prod.mk.injEq, List.not_mem_nil, or_false] at hmem
  rcases hmem with ⟨-, rfl⟩ | ⟨-, rfl⟩ | ⟨-, rfl⟩ | ⟨-, rfl⟩ | ⟨-, rfl⟩ | ⟨-, rfl⟩
  · exact .null
  · exact .bool true
  · exact .bool false
  all_goals exact .double _

/-- Setting a member keeps what holds of all members. -/
theorem forall_mem_put {P : Json → Prop} {name : Text} {value : Json}
    {members : List (Text × Json)} (hvalue : P value) (hmembers : ∀ m ∈ members, P m.2) :
    ∀ m ∈ put name value members, P m.2 := by
  induction members with
  | nil =>
    intro m hm
    rw [List.mem_singleton.1 hm]
    exact hvalue
  | cons member members ih =>
    intro m hm
    rw [put] at hm
    split at hm
    · rcases List.mem_cons.1 hm with rfl | hm
      · exact hvalue
      · exact hmembers m (List.mem_cons_of_mem member hm)
    · rcases List.mem_cons.1 hm with rfl | hm
      · exact hmembers m List.mem_cons_self
      · exact ih (fun m hm ↦ hmembers m (List.mem_cons_of_mem member hm)) m hm

/-- What the three readers give on a budget is within the limit, if what was read before is. -/
structure ReadsWithinLimit (budget : Nat) : Prop where
  value : ∀ {s rest j}, readValue (some digitLimit) budget s = .ok (j, rest) → j.WithinLimit
  items : ∀ {before s rest j}, (∀ item ∈ before, item.WithinLimit) →
    readItems (some digitLimit) budget before s = .ok (j, rest) → j.WithinLimit
  members : ∀ {before s rest j}, (∀ member ∈ before, member.2.WithinLimit) →
    readMembers (some digitLimit) budget before s = .ok (j, rest) → j.WithinLimit

theorem ReadsWithinLimit.value_succ {budget : Nat} (ih : ReadsWithinLimit budget) {s rest : Text}
    {j : Json} (h : readValue (some digitLimit) (budget + 1) s = .ok (j, rest)) :
    j.WithinLimit := by
  cases s with
  | nil => exact absurd h (by simp [readValue])
  | cons c tail =>
    rw [readValue] at h
    split at h
    · obtain ⟨⟨t, rest'⟩, -, hok⟩ := Except.bind_eq_ok_iff.1 h
      rw [← (Prod.mk.inj (Except.ok.inj hok)).1]
      exact .text t
    · split at h
      · split at h
        · rw [← (Prod.mk.inj (Except.ok.inj h)).1]
          exact .array fun _ hmem ↦ absurd hmem List.not_mem_nil
        · exact ih.items (fun _ hmem ↦ absurd hmem List.not_mem_nil) h
      · split at h
        · split at h
          · rw [← (Prod.mk.inj (Except.ok.inj h)).1]
            exact .object fun _ hmem ↦ absurd hmem List.not_mem_nil
          · exact ih.members (fun _ hmem ↦ absurd hmem List.not_mem_nil) h
        · split at h
          · rename_i hword
            exact withinLimit_of_word? (Except.ok.inj h ▸ hword)
          · exact withinLimit_of_number h

theorem ReadsWithinLimit.items_succ {budget : Nat} (ih : ReadsWithinLimit budget)
    {before : List Json} (hbefore : ∀ item ∈ before, item.WithinLimit) {s rest : Text} {j : Json}
    (h : readItems (some digitLimit) (budget + 1) before s = .ok (j, rest)) :
    j.WithinLimit := by
  rw [readItems] at h
  obtain ⟨⟨item, rest'⟩, hitem, h⟩ := Except.bind_eq_ok_iff.1 h
  have hall : ∀ i ∈ item :: before, i.WithinLimit := by
    intro i hi
    rcases List.mem_cons.1 hi with rfl | hi
    · exact ih.value hitem
    · exact hbefore i hi
  simp only at h
  split at h
  · rw [← (Prod.mk.inj (Except.ok.inj h)).1]
    exact .array fun i hi ↦ hall i (List.mem_reverse.1 hi)
  · exact ih.items hall h
  · exact absurd h (by simp)

theorem ReadsWithinLimit.members_succ {budget : Nat} (ih : ReadsWithinLimit budget)
    {before : List (Text × Json)} (hbefore : ∀ m ∈ before, m.2.WithinLimit) {s rest : Text}
    {j : Json} (h : readMembers (some digitLimit) (budget + 1) before s = .ok (j, rest)) :
    j.WithinLimit := by
  unfold readMembers at h
  split at h
  · obtain ⟨⟨name, afterName⟩, -, h⟩ := Except.bind_eq_ok_iff.1 h
    simp only at h
    split at h
    · obtain ⟨⟨value, afterValue⟩, hvalue, h⟩ := Except.bind_eq_ok_iff.1 h
      have hall : ∀ m ∈ put name value before, m.2.WithinLimit :=
        forall_mem_put (ih.value hvalue) hbefore
      simp only at h
      split at h
      · rw [← (Prod.mk.inj (Except.ok.inj h)).1]
        exact .object hall
      · exact ih.members hall h
      · exact absurd h (by simp)
    · exact absurd h (by simp)
  · exact absurd h (by simp)

theorem readsWithinLimit (budget : Nat) : ReadsWithinLimit budget := by
  induction budget with
  | zero =>
    refine ⟨fun h ↦ ?_, fun _ h ↦ ?_, fun _ h ↦ ?_⟩
    · exact absurd h (by simp [readValue])
    · exact absurd h (by simp [readItems])
    · exact absurd h (by simp [readMembers])
  | succ budget ih =>
    exact ⟨fun h ↦ ih.value_succ h, fun hbefore h ↦ ih.items_succ hbefore h,
      fun hbefore h ↦ ih.members_succ hbefore h⟩

/-- **A text that is read under the limit gives a value within it.** -/
theorem withinLimit_of_read {t : Text} {j : Json} (h : read (some digitLimit) t = .ok j) :
    j.WithinLimit := by
  rw [read] at h
  split at h
  · rename_i value hvalue
    obtain rfl : value = j := Except.ok.inj h
    rw [readDocument] at hvalue
    split at hvalue
    · obtain ⟨_, herror, -⟩ := Except.bind_eq_ok_iff.1 hvalue
      exact absurd herror (by simp)
    · obtain ⟨⟨value', rest⟩, hread, hvalue⟩ := Except.bind_eq_ok_iff.1 hvalue
      simp only at hvalue
      split at hvalue
      · exact Except.ok.inj hvalue ▸ (readsWithinLimit _).value hread
      · exact absurd hvalue (by simp)
  · exact absurd h (by simp)
  · exact absurd h (by simp)

end Json

end SignatureBridge
