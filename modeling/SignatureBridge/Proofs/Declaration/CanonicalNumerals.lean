import SignatureBridge.Proofs.Declaration.IntegerTyping

/-!
# Canonical numerals

An integer is written in one way in each base. `Base.IsCanonical` says what the digits have to be
like: letters in capitals, at least one digit, and no zero in front of others. Then the number that
they denote determines them (`Base.IsCanonical.eq_digitsOf`), and the digits of a numeral are
canonical (`Numeral.isCanonical_digitsOf`), zero included, whose only digit is the zero.

The sign and the mark of the base stand in front, so that the text can be read back with its base
(`Numeral.ofText?_text`). `Numeral.ofRadix_canonical` puts this together for numerals that are made
to a base given by its number.
-/

namespace SignatureBridge

namespace Base

/-- The digits of a base, letters in capitals. -/
def capitals (b : Base) : Text := (Text.ofString "0123456789ABCDEF").take b.radix

/-- How the digits of a numeral are to be written: in capitals, at least one, and without a zero in
front of others. -/
structure IsCanonical (b : Base) (t : Text) : Prop where
  ne_nil : t ≠ []
  mem_capitals : ∀ c ∈ t, c ∈ b.capitals
  eq_zero : t.head? = some 48 → t = "0"

theorem mem_capitals_iff {b : Base} {c : CodePoint} :
    c ∈ b.capitals ↔ ∃ d, d < b.radix ∧ c = digitCapital d := by
  have hmap : b.capitals = (List.range b.radix).map digitCapital := by cases b <;> decide
  simp only [hmap, List.mem_map, List.mem_range, eq_comm]

/-- Only the digit zero has the letter of zero. -/
theorem digitCapital_eq_zero {d : Nat} (hd : d < 16) (h : digitCapital d = 48) : d = 0 := by
  have hread := hexValue?_digitCapital hd
  rw [h] at hread
  exact (Option.some.inj hread).symm

/-- A text of digits of a base is written with digits below the base. -/
theorem exists_map_digitCapital {b : Base} {t : Text} (h : ∀ c ∈ t, c ∈ b.capitals) :
    ∃ ds : List Nat, (∀ d ∈ ds, d < b.radix) ∧ t = ds.map digitCapital := by
  induction t with
  | nil => exact ⟨[], by simp, rfl⟩
  | cons c t ih =>
    obtain ⟨d, hd, rfl⟩ := mem_capitals_iff.1 (h c List.mem_cons_self)
    obtain ⟨ds, hds, rfl⟩ := ih fun e he ↦ h e (List.mem_cons_of_mem _ he)
    exact ⟨d :: ds, List.forall_mem_cons.2 ⟨hd, hds⟩, rfl⟩

/-- **Canonical digits are determined by the number that they denote.** -/
theorem IsCanonical.eq_digitsOf {b : Base} {t : Text} (h : b.IsCanonical t) :
    t = Numeral.digitsOf b (b.valueOf t) := by
  obtain ⟨ds, hds, rfl⟩ := exists_map_digitCapital h.mem_capitals
  have hne : ds ≠ [] := fun hnil ↦ h.ne_nil (by rw [hnil, List.map_nil])
  have hzero : ds.head? = some 0 → ds = [0] := by
    intro hhead
    have hall : ds.map digitCapital = [48] := h.eq_zero (by rw [List.head?_map, hhead]; rfl)
    obtain ⟨d, rfl, -⟩ := List.map_eq_singleton_iff.1 hall
    obtain rfl : d = 0 := by simpa using hhead
    rfl
  rw [valueOf_map_digitCapital hds, Numeral.digitsOf,
    digits_ofDigits b.radix_bounds.1 hds hne hzero]

end Base

namespace Numeral

theorem digitsOf_zero (b : Base) : digitsOf b 0 = "0" := by
  have hdigits : SignatureBridge.digits b.radix 0 = [0] := by
    have := b.radix_bounds
    rw [digits_eq, if_neg (by omega)]
  rw [digitsOf, hdigits]
  rfl

/-- Only the numeral of zero has a zero in front. -/
theorem head?_digitsOf_eq_zero_iff {b : Base} {n : Nat} :
    (digitsOf b n).head? = some 48 ↔ n = 0 := by
  refine ⟨fun h ↦ ?_, fun h ↦ by rw [h, digitsOf_zero]; rfl⟩
  have hne := digits_ne_nil b.radix n
  have hlt : (SignatureBridge.digits b.radix n).head hne < 16 :=
    Nat.lt_of_lt_of_le (lt_of_mem_digits b.radix_bounds.1 (List.head_mem _)) b.radix_bounds.2
  rw [digitsOf, List.head?_map, List.head?_eq_some_head hne] at h
  have hzero := Base.digitCapital_eq_zero hlt (Option.some.inj h)
  rcases Nat.eq_zero_or_pos n with hn | hn
  · exact hn
  · exact absurd hzero (Nat.pos_iff_ne_zero.1 (head_digits_pos hn))

/-- The digits of a numeral are canonical. -/
theorem isCanonical_digitsOf (b : Base) (n : Nat) : b.IsCanonical (digitsOf b n) where
  ne_nil := digitsOf_ne_nil b n
  mem_capitals c hc := by
    obtain ⟨d, hd, -, hc⟩ := exists_of_mem_digitsOf hc
    exact Base.mem_capitals_iff.2 ⟨d, hd, hc⟩
  eq_zero h := by rw [head?_digitsOf_eq_zero_iff.1 h, digitsOf_zero]

/-- The digits of a number are the canonical ones that denote it. -/
theorem eq_digitsOf_iff {b : Base} {n : Nat} {t : Text} :
    t = digitsOf b n ↔ b.IsCanonical t ∧ b.valueOf t = n := by
  constructor
  · rintro rfl
    exact ⟨isCanonical_digitsOf b n, valueOf_digitsOf b n⟩
  · rintro ⟨hcanonical, rfl⟩
    exact hcanonical.eq_digitsOf

/-! ### Numerals of integers -/

theorem ofRadix?_radix (b : Base) : Base.ofRadix? b.radix = some b := by
  cases b <;> rfl

/-- The numeral of an integer to a base of C#, where it can be written. -/
theorem ofRadix_eq_ok_iff {v : Int} {b : Base} {n : Numeral} :
    ofRadix v b.radix = .ok n ↔
      (b = .decimal → v.natAbs < Nat.pow 10 digitLimit) ∧
        n = { value := v, base := b, digits := digitsOf b v.natAbs } := by
  rw [ofRadix, ofRadix?_radix]
  simp only [make]
  split
  · rename_i hlong
    simp only [reduceCtorEq, false_iff, not_and]
    intro hlimit
    exact absurd (hlimit hlong.1) (Nat.not_lt.2 hlong.2)
  · rename_i hfits
    rw [Except.ok.injEq, eq_comm]
    refine ⟨fun h ↦ ⟨fun hb ↦ ?_, h⟩, And.right⟩
    exact Nat.lt_of_not_le fun hle ↦ hfits ⟨hb, hle⟩

/-- A numeral is read back from its text. -/
theorem ofText?_text (v : Int) (b : Base) :
    IntegerToken.ofText? (text { value := v, base := b, digits := digitsOf b v.natAbs }) =
      some { negative := decide (v < 0), base := b, magnitude := v.natAbs, suffixed := false } := by
  have hread := IntegerToken.ofText?_numeralLiteral v b false
  simpa [Constant.numeralLiteral, Literal.integer, Literal.numeric, IntegerToken.suffix] using hread

/-- **Integers have canonical numerals.** To each of the bases of C#, an integer has a numeral,
unless it is too long for a decimal one. The digits of the numeral are the only canonical digits
that denote the magnitude, with a zero in front only for zero. They stand behind the sign and the
mark of the base, and the text can be read back; so texts are equal only for one integer in one
base. Any other base is refused as a wrong value. -/
theorem ofRadix_canonical :
    (∀ (v : Int) (b : Base), (b = .decimal → v.natAbs < Nat.pow 10 digitLimit) →
      ∃ n, ofRadix v b.radix = .ok n ∧ n.value = v ∧ n.base = b ∧
        (∀ t, t = n.digits ↔ b.IsCanonical t ∧ b.valueOf t = v.natAbs) ∧
        (n.digits.head? = some 48 ↔ v = 0) ∧
        n.text = (if v < 0 then Text.ofString "-" else []) ++ b.mark ++ n.digits ∧
        ∃ token, IntegerToken.ofText? n.text = some token ∧ token.value = v ∧ token.base = b) ∧
    (∀ (v w : Int) (b c : Base) (n m : Numeral), ofRadix v b.radix = .ok n →
      ofRadix w c.radix = .ok m → n.text = m.text → v = w ∧ b = c) ∧
    ∀ v radix : Int, radix ∉ [2, 10, 16] →
      ∃ cause, ofRadix v radix = .error cause ∧ cause.category = "ValueError" := by
  refine ⟨fun v b hlimit ↦ ?_, fun v w b c n m hn hm htext ↦ ?_, fun v radix hradix ↦ ?_⟩
  · refine ⟨_, ofRadix_eq_ok_iff.2 ⟨hlimit, rfl⟩, rfl, rfl, fun t ↦ eq_digitsOf_iff, ?_, rfl,
      ⟨_, ofText?_text v b, Constant.value_token v b false, rfl⟩⟩
    exact head?_digitsOf_eq_zero_iff.trans Int.natAbs_eq_zero
  · obtain ⟨-, rfl⟩ := ofRadix_eq_ok_iff.1 hn
    obtain ⟨-, rfl⟩ := ofRadix_eq_ok_iff.1 hm
    -- what is read back from the one text is both integers with their bases
    have htoken := Option.some.inj ((ofText?_text v b).symm.trans (htext ▸ ofText?_text w c))
    refine ⟨?_, congrArg IntegerToken.base htoken⟩
    rw [← Constant.value_token v b false, htoken, Constant.value_token w c false]
  · have hnone : Base.ofRadix? radix = none := by
      simp only [List.mem_cons, List.not_mem_nil, or_false, not_or] at hradix
      rw [Base.ofRadix?, if_neg hradix.1, if_neg hradix.2.1, if_neg hradix.2.2]
    rw [ofRadix, hnone]
    by_cases hshown : radix.natAbs < Nat.pow 10 digitLimit
    · exact ⟨.unsupportedBase radix, by simp only [Text.ofInt?, if_pos hshown], rfl⟩
    · exact ⟨.number .writingLimit, by simp only [Text.ofInt?, if_neg hshown], rfl⟩

/-- The only canonical hexadecimal digits of a negative number, and its text. -/
theorem ofRadix_canonical_negative :
    ∃ n, ofRadix (-255) 16 = .ok n ∧ n.digits = "FF" ∧ n.text = "-0xFF" := by
  obtain ⟨n, hn, -, -, hdigits, -, htext, -⟩ := ofRadix_canonical.1 (-255) .hexadecimal nofun
  have hcapitals : ∀ c ∈ Text.ofString "FF", c ∈ Base.capitals .hexadecimal := by
    intro c hc
    obtain rfl : c = 70 := List.eq_of_mem_replicate (n := 2) hc
    decide
  have hff : n.digits = "FF" :=
    ((hdigits "FF").2 ⟨⟨by decide, hcapitals, by decide⟩, by decide +kernel⟩).symm
  exact ⟨n, hn, hff, by rw [htext, hff]; rfl⟩

end Numeral

end SignatureBridge
