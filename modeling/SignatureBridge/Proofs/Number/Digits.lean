import Mathlib.Data.List.Induction
import SignatureBridge.Number.Radix

/-!
# Digits of a fixed width

An escape writes a number with a fixed count of hexadecimal digits, and it can be read back only if
the count is kept. `fixedDigits` is the list behind such a text: the digits of the number with zeros
in front. For a number below the power of the base that belongs to the width it has exactly that
width (`length_fixedDigits`), and it denotes the number (`ofDigits_fixedDigits`); `Text.hex_eq_map`
says that it is what the library writes.

Digits without a zero in front are those of the number that they denote (`digits_ofDigits`).

A digit and its letter determine each other: `hexValue?_digitSmall` and `hexValue?_digitCapital`
read a letter back.
-/

namespace SignatureBridge

/-! ### Letters of digits -/

/-- Reading the small letter of a digit gives the digit. -/
theorem hexValue?_digitSmall : ∀ {d : Nat}, d < 16 → (digitSmall d).hexValue? = some d := by
  decide

/-- Reading the capital letter of a digit gives the digit. -/
theorem hexValue?_digitCapital : ∀ {d : Nat}, d < 16 → (digitCapital d).hexValue? = some d := by
  decide

/-! ### Counting digits -/

/-- A number below a power of the base has at most as many digits as the exponent says. -/
theorem length_digits_le {b k : Nat} (hb : 2 ≤ b) (hk : 0 < k) :
    ∀ {n : Nat}, n < Nat.pow b k → (digits b n).length ≤ k := by
  induction k with
  | zero => omega
  | succ k ih =>
    intro n hn
    rw [digits_eq]
    split
    · rename_i h
      have hdiv : n / b < Nat.pow b k := by
        rw [Nat.div_lt_iff_lt_mul (by omega)]
        exact hn
      -- a number that still has two digits has an exponent above one
      have hpos : 0 < k := by
        rcases Nat.eq_zero_or_pos k with rfl | hpos
        · have hzero : n / b = 0 := Nat.lt_one_iff.1 hdiv
          have : 0 < n / b := Nat.div_pos h.2 (by omega)
          omega
        · exact hpos
      have := ih hpos hdiv
      simp only [List.length_append, List.length_singleton]
      omega
    · simp

/-- A numeral denotes a number below the power of the base that belongs to its length. -/
theorem ofDigits_lt_pow {b : Nat} {ds : List Nat} (h : ∀ d ∈ ds, d < b) :
    ofDigits b ds < Nat.pow b ds.length := by
  -- digits are read from the left, so the induction takes them off at the right
  induction ds using List.reverseRecOn with
  | nil => exact Nat.one_pos
  | append_singleton ds d ih =>
    have hd : d < b := h d (by simp)
    have hds : ofDigits b ds + 1 ≤ Nat.pow b ds.length := ih fun e he ↦ h e (by simp [he])
    have hmul := Nat.mul_le_mul_right b hds
    rw [ofDigits_append_singleton, List.length_append]
    show ofDigits b ds * b + d < Nat.pow b ds.length * b
    rw [Nat.add_mul] at hmul
    omega

/-! ### Canonical digits -/

/-- Digits denote a positive number if the first one is positive. -/
theorem ofDigits_pos {b d : Nat} {ds : List Nat} (hb : 0 < b) (hd : 0 < d) :
    0 < ofDigits b (d :: ds) := by
  induction ds using List.reverseRecOn with
  | nil => simpa [ofDigits] using hd
  | append_singleton ds e ih =>
    rw [← List.cons_append, ofDigits_append_singleton]
    have := Nat.mul_pos ih hb
    omega

/-- Digits without a zero in front are the digits of the number that they denote; so is a zero on
its own. -/
theorem digits_ofDigits {b : Nat} {ds : List Nat} (hb : 2 ≤ b) (hlt : ∀ d ∈ ds, d < b)
    (hne : ds ≠ []) (hzero : ds.head? = some 0 → ds = [0]) : digits b (ofDigits b ds) = ds := by
  induction ds using List.reverseRecOn with
  | nil => exact absurd rfl hne
  | append_singleton ds d ih =>
    have hd : d < b := hlt d (by simp)
    cases ds with
    | nil =>
      have hvalue : ofDigits b ([] ++ [d]) = d := by simp [ofDigits]
      rw [hvalue, digits_eq, if_neg (by omega), List.nil_append]
    | cons e es =>
      -- another digit follows the first one, so this is no zero
      have he : 0 < e := by
        rcases Nat.eq_zero_or_pos e with rfl | he
        · exact absurd (hzero rfl) (by simp)
        · exact he
      have hpos : 0 < ofDigits b (e :: es) := ofDigits_pos (by omega) he
      have hfront : digits b (ofDigits b (e :: es)) = e :: es := by
        refine ih (fun c hc ↦ hlt c (List.mem_append_left _ hc)) (List.cons_ne_nil e es) fun h ↦ ?_
        obtain rfl : e = 0 := by simpa using h
        exact absurd he (Nat.lt_irrefl 0)
      have hle : b ≤ ofDigits b (e :: es) * b := Nat.le_mul_of_pos_left b hpos
      have hdiv : (ofDigits b (e :: es) * b + d) / b = ofDigits b (e :: es) := by
        rw [Nat.mul_comm, Nat.mul_add_div (by omega), Nat.div_eq_of_lt hd, Nat.add_zero]
      have hmod : (ofDigits b (e :: es) * b + d) % b = d := by
        rw [Nat.mul_comm, Nat.mul_add_mod, Nat.mod_eq_of_lt hd]
      rw [ofDigits_append_singleton, digits_eq, if_pos ⟨hb, by omega⟩, hdiv, hmod, hfront]

/-! ### Digits filled up to a width -/

/-- The digits of a number with zeros in front, up to a width. -/
def fixedDigits (b width n : Nat) : List Nat :=
  List.replicate (width - (digits b n).length) 0 ++ digits b n

theorem length_fixedDigits {b width n : Nat} (hb : 2 ≤ b) (hw : 0 < width)
    (hn : n < Nat.pow b width) :
    (fixedDigits b width n).length = width := by
  have := length_digits_le hb hw hn
  simp only [fixedDigits, List.length_append, List.length_replicate]
  omega

theorem lt_of_mem_fixedDigits {b width n d : Nat} (hb : 2 ≤ b) (h : d ∈ fixedDigits b width n) :
    d < b := by
  rcases List.mem_append.1 h with h | h
  · rw [List.eq_of_mem_replicate h]
    omega
  · exact lt_of_mem_digits hb h

/-- Zeros in front do not change the number. -/
theorem ofDigits_fixedDigits (b width n : Nat) : ofDigits b (fixedDigits b width n) = n := by
  have hzeros : ∀ k : Nat, (List.replicate k 0).foldl (fun value d ↦ value * b + d) 0 = 0 := by
    intro k
    induction k with
    | zero => rfl
    | succ k ih => rw [List.replicate_succ, List.foldl_cons, Nat.zero_mul]; exact ih
  calc ofDigits b (fixedDigits b width n)
      = (digits b n).foldl (fun value d ↦ value * b + d) 0 := by
        rw [ofDigits, fixedDigits, List.foldl_append, hzeros]
    _ = n := ofDigits_digits b n

/-- The hexadecimal text of a width is written digit by digit. -/
theorem Text.hex_eq_map (width n : Nat) :
    Text.hex width n = (fixedDigits 16 width n).map digitSmall := by
  rw [Text.hex, Text.padZeros, Text.zeros, fixedDigits, List.map_append, List.map_replicate,
    List.length_map]
  rfl

end SignatureBridge
