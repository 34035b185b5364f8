import SignatureBridge.Declaration.Numeral
import SignatureBridge.Proofs.Number.Digits

/-!
# Digits of numerals

The reading side of the digits in C# numerals. A base has its digits, of which the letters may be
capital or small (`Base.isDigit`), and a text of them denotes a number (`Base.valueOf`). What a
numeral is written with are digits of its base (`Numeral.all_isDigit_digitsOf`), at least one, and
they denote its magnitude (`Numeral.valueOf_digitsOf`).
-/

namespace SignatureBridge

namespace Base

/-- A digit of a base. -/
def isDigit (b : Base) (c : CodePoint) : Bool :=
  match c.hexValue? with
  | some d => d < b.radix
  | none => false

/-- The number that a text of digits denotes. -/
def valueOf (b : Base) (t : Text) : Nat := ofDigits b.radix (t.filterMap CodePoint.hexValue?)

theorem radix_bounds (b : Base) : 2 ≤ b.radix ∧ b.radix ≤ 16 := by
  cases b <;> decide

/-- A text of the capital letters of digits denotes the number that the digits denote. -/
theorem valueOf_map_digitCapital {b : Base} {ds : List Nat} (h : ∀ d ∈ ds, d < b.radix) :
    b.valueOf (ds.map digitCapital) = ofDigits b.radix ds := by
  have hread : (ds.map digitCapital).filterMap CodePoint.hexValue? = ds := by
    induction ds with
    | nil => rfl
    | cons d ds ih =>
      have hd : d < 16 := Nat.lt_of_lt_of_le (h d List.mem_cons_self) b.radix_bounds.2
      rw [List.map_cons, List.filterMap_cons_some (hexValue?_digitCapital hd),
        ih fun e he ↦ h e (List.mem_cons_of_mem d he)]
  rw [valueOf, hread]

end Base

namespace Numeral

/-- Every letter of the digits of a number is the capital letter of a digit below the base. -/
theorem exists_of_mem_digitsOf {b : Base} {n : Nat} {c : CodePoint} (h : c ∈ digitsOf b n) :
    ∃ d, d < b.radix ∧ d < 16 ∧ c = digitCapital d := by
  obtain ⟨d, hd, rfl⟩ := List.mem_map.1 h
  have hlt : d < b.radix := lt_of_mem_digits b.radix_bounds.1 hd
  exact ⟨d, hlt, Nat.lt_of_lt_of_le hlt b.radix_bounds.2, rfl⟩

/-- The written digits of a number are digits of the base. -/
theorem all_isDigit_digitsOf (b : Base) (n : Nat) : (digitsOf b n).all b.isDigit = true := by
  refine List.all_eq_true.2 fun c hc ↦ ?_
  obtain ⟨d, hlt, hlt16, rfl⟩ := exists_of_mem_digitsOf hc
  rw [Base.isDigit, hexValue?_digitCapital hlt16]
  exact decide_eq_true hlt

theorem digitsOf_ne_nil (b : Base) (n : Nat) : digitsOf b n ≠ [] := by
  intro h
  exact digits_ne_nil b.radix n (List.map_eq_nil_iff.1 h)

/-- The written digits of a number denote it. -/
theorem valueOf_digitsOf (b : Base) (n : Nat) : b.valueOf (digitsOf b n) = n := by
  rw [digitsOf, Base.valueOf_map_digitCapital fun d ↦ lt_of_mem_digits b.radix_bounds.1,
    ofDigits_digits]

end Numeral

end SignatureBridge
