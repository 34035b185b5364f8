import SignatureBridge.Text.Basic

/-!
# Positional numerals

`digits b n` lists the digits of `n` to the base `b`, most significant first, and `ofDigits b` reads
such a list. Reading undoes writing (`ofDigits_digits`), every digit is below the base
(`lt_of_mem_digits`), and only the numeral of zero starts with a zero (`head_digits_pos`). Every
numeral that the library prints, in a C# literal, in a message or in an escape, is made here.
-/

namespace SignatureBridge

/-- The digits of `n` to the base `b`, in front of the digits already written. Below base two there
is one digit. -/
def digitsOnto (b n : Nat) (rest : List Nat) : List Nat :=
  if 2 ≤ b ∧ b ≤ n then digitsOnto b (n / b) (n % b :: rest) else n :: rest
termination_by n
decreasing_by rename_i h; exact Nat.div_lt_self (by omega) (by omega)

/-- The digits of `n` to the base `b`, most significant first. -/
def digits (b n : Nat) : List Nat := digitsOnto b n []

/-- The number that a list of digits to the base `b` denotes. -/
def ofDigits (b : Nat) (ds : List Nat) : Nat := ds.foldl (fun value d ↦ value * b + d) 0

theorem digitsOnto_eq_append (b n : Nat) (rest : List Nat) :
    digitsOnto b n rest = digits b n ++ rest := by
  induction n using Nat.strongRecOn generalizing rest with
  | ind n ih =>
    rw [digits]
    conv => lhs; rw [digitsOnto]
    conv => rhs; rw [digitsOnto]
    split
    · rename_i h
      have hlt : n / b < n := Nat.div_lt_self (by omega) (by omega)
      rw [ih _ hlt, ih _ hlt [n % b], List.append_assoc]
      rfl
    · rfl

theorem digits_eq (b n : Nat) :
    digits b n = if 2 ≤ b ∧ b ≤ n then digits b (n / b) ++ [n % b] else [n] := by
  rw [digits, digitsOnto]
  split
  · rw [digitsOnto_eq_append]
  · rfl

theorem ofDigits_append_singleton (b : Nat) (ds : List Nat) (d : Nat) :
    ofDigits b (ds ++ [d]) = ofDigits b ds * b + d := by
  simp [ofDigits, List.foldl_append]

/-- Reading the digits of a number gives the number. -/
theorem ofDigits_digits (b n : Nat) : ofDigits b (digits b n) = n := by
  induction n using Nat.strongRecOn with
  | ind n ih =>
    rw [digits_eq]
    split
    · rename_i h
      rw [ofDigits_append_singleton, ih _ (Nat.div_lt_self (by omega) (by omega)), Nat.mul_comm]
      exact Nat.div_add_mod n b
    · simp [ofDigits]

theorem digits_ne_nil (b n : Nat) : digits b n ≠ [] := by
  rw [digits_eq]
  split <;> simp

/-- Every digit is below the base. -/
theorem lt_of_mem_digits {b n d : Nat} (hb : 2 ≤ b) (h : d ∈ digits b n) : d < b := by
  induction n using Nat.strongRecOn with
  | ind n ih =>
    rw [digits_eq] at h
    split at h
    · rename_i hn
      rcases List.mem_append.1 h with h | h
      · exact ih _ (Nat.div_lt_self (by omega) (by omega)) h
      · rw [List.mem_singleton.1 h]
        exact Nat.mod_lt _ (by omega)
    · rw [List.mem_singleton.1 h]
      omega

/-- The numeral of a positive number starts with a positive digit. -/
theorem head_digits_pos {b n : Nat} (hn : 0 < n) : 0 < (digits b n).head (digits_ne_nil b n) := by
  induction n using Nat.strongRecOn with
  | ind n ih =>
    have hcases : digits b n = digits b (n / b) ++ [n % b] ∧ 2 ≤ b ∧ b ≤ n ∨ digits b n = [n] := by
      rw [digits_eq]
      split
      · exact Or.inl ⟨rfl, by assumption⟩
      · exact Or.inr rfl
    rcases hcases with ⟨heq, hb, hle⟩ | heq
    · have hpos : 0 < n / b := Nat.div_pos hle (by omega)
      have := ih _ (Nat.div_lt_self hn (by omega)) hpos
      simp only [heq, List.head_append_of_ne_nil (digits_ne_nil b (n / b))]
      exact this
    · simp only [heq, List.head_cons]
      exact hn

/-! ### Digits as code points -/

/-- The code point of a digit, letters in capitals. -/
def digitCapital (d : Nat) : CodePoint := Fin.ofNat _ (if d < 10 then 48 + d else 55 + d)

/-- The code point of a digit, letters in small form. -/
def digitSmall (d : Nat) : CodePoint := Fin.ofNat _ (if d < 10 then 48 + d else 87 + d)

namespace Text

/-- A number in decimal. -/
def ofNat (n : Nat) : Text := (digits 10 n).map digitSmall

/-- An integer in decimal. -/
def ofInt (n : Int) : Text := if n < 0 then 45 :: ofNat n.natAbs else ofNat n.natAbs

/-- A run of zeros. -/
def zeros (n : Nat) : Text := List.replicate n 48

/-- A text filled up on the left with zeros to a width. -/
def padZeros (width : Nat) (t : Text) : Text := zeros (width - t.length) ++ t

/-- A number in hexadecimal with small letters and at least `width` digits. -/
def hex (width n : Nat) : Text := padZeros width ((digits 16 n).map digitSmall)

end Text

end SignatureBridge
