import Mathlib.Data.List.Basic
import SignatureBridge.Proofs.Declaration.NumeralDigits
import SignatureBridge.Proofs.Declaration.StringLexing
import SignatureBridge.Proofs.Text.Cutting
import SignatureBridge.Proofs.Text.Delimited
import SignatureBridge.Reflection.Default

/-!
# Reading literals back

The literal of a default is a string literal or a word of letters, digits, points and signs
(`isSpelled_of_reflect`). That a double is such a word is read off from the layout of its digits
(`Binary64.all_text`), which holds whatever the digits are. Words and string literals are told apart
by their first letter, two words by where they stop, and two string literals by
`StringLiteral.quote_append_inj`, so a literal can be read back in front of any text that cannot go
on a word and does not start with a quote (`Literal.tellsApart`).
-/

namespace SignatureBridge

/-! ### Letters of numbers -/

/-- A letter of a literal that is no string: a Latin letter, a digit, the point or a sign. -/
def CodePoint.isWordLetter (c : CodePoint) : Bool :=
  c.isAsciiLetter || c.isAsciiDigit || c = 46 || c = 43 || c = 45

open CodePoint (isWordLetter)

/-- A text of word letters stays one in parts. -/
theorem Text.all_of_subset {p : CodePoint → Bool} {s t : Text} (hst : s ⊆ t) (ht : t.all p = true) :
    s.all p = true :=
  List.all_eq_true.2 fun c hc ↦ List.all_eq_true.1 ht c (hst hc)

theorem Text.all_zeros (n : Nat) : (zeros n).all isWordLetter = true := by
  refine List.all_eq_true.2 fun c hc ↦ ?_
  rw [List.eq_of_mem_replicate hc]
  decide

theorem Text.all_ofNat (n : Nat) : (ofNat n).all isWordLetter = true := by
  have hdigits : ∀ d < 10, isWordLetter (digitSmall d) = true := by decide
  refine List.all_eq_true.2 fun c hc ↦ ?_
  obtain ⟨d, hd, rfl⟩ := List.mem_map.1 hc
  exact hdigits d (lt_of_mem_digits (by omega) hd)

theorem Numeral.all_digitsOf (base : Base) (n : Nat) :
    (digitsOf base n).all isWordLetter = true := by
  have hdigits : ∀ d < 16, isWordLetter (digitCapital d) = true := by decide
  refine List.all_eq_true.2 fun c hc ↦ ?_
  obtain ⟨d, -, hd, rfl⟩ := exists_of_mem_digitsOf hc
  exact hdigits d hd

namespace Binary64

theorem all_positional {ds : Text} (h : ds.all isWordLetter = true) (place : Int) :
    (positional ds place).all isWordLetter = true := by
  have hzero : (Text.ofString "0.").all isWordLetter = true := by decide
  have hpoint : (Text.ofString ".").all isWordLetter = true := by decide
  have hpointZero : (Text.ofString ".0").all isWordLetter = true := by decide
  simp only [positional]
  split_ifs
  · simp only [List.all_append, hzero, Text.all_zeros, h, Bool.and_true]
  · simp only [List.all_append, h, Text.all_zeros, hpointZero, Bool.and_true]
  · simp only [List.all_append, Text.all_of_subset (List.take_subset _ ds) h, hpoint,
      Text.all_of_subset (List.drop_subset _ ds) h,
      Bool.and_true]

theorem all_scientific {ds : Text} (h : ds.all isWordLetter = true) (exponent : Int) :
    (scientific ds exponent).all isWordLetter = true := by
  have hfraction :
      (if ds.length ≤ 1 then [] else Text.ofString "." ++ ds.drop 1).all isWordLetter = true := by
    split_ifs
    · rfl
    · rw [List.all_append, Text.all_of_subset (List.drop_subset 1 ds) h]
      rfl
  have hsign :
      (if exponent < 0 then Text.ofString "-" else Text.ofString "+").all isWordLetter = true := by
    split_ifs <;> decide
  have hmark : (Text.ofString "e").all isWordLetter = true := by decide
  simp only [scientific, Text.padZeros, List.all_append,
    Text.all_of_subset (List.take_subset 1 ds) h, hfraction, hmark, hsign,
    Text.all_zeros, Text.all_ofNat, Bool.and_true]

theorem all_layOut {ds : Text} (h : ds.all isWordLetter = true) (k : Int) :
    (layOut ds k).all isWordLetter = true := by
  rw [layOut]
  split_ifs
  · exact all_positional h _
  · exact all_scientific h _

/-- **A double is written as a word**, whatever its shortest decimal is. -/
theorem all_text (x : Binary64) : x.text.all isWordLetter = true := by
  cases x with
  | nan => decide
  | infinity negative => cases negative <;> decide
  | finite negative m e =>
    have hsign : (if negative then Text.ofString "-" else []).all isWordLetter = true := by
      cases negative <;> decide
    simp only [text]
    by_cases hm : m = 0
    · rw [if_pos hm, List.all_append, hsign]
      decide
    -- the layout moves the digits about and adds zeros, a point and an exponent
    · have hkept := Text.all_of_subset (Text.trimEnd_isPrefix (· = 48) _).subset
        (Text.all_ofNat (shortestDecimal m e).1)
      rw [if_neg hm, List.all_append, hsign, Bool.true_and]
      exact all_layOut hkept _

end Binary64

/-! ### Spellings of literals -/

/-- A text is spelled like a literal: it is a string literal or a word. -/
def Literal.IsSpelled (literal : Literal) : Prop :=
  (∃ t, literal.text = StringLiteral.quote t) ∨ literal.text.all isWordLetter = true

namespace Constant

theorem all_numeralLiteral (n : Int) (base : Base) {suffix : Text}
    (hsuffix : suffix.all isWordLetter = true) :
    (numeralLiteral n base suffix).text.all isWordLetter = true := by
  have hsign : (if n < 0 then Text.ofString "-" else []).all isWordLetter = true := by
    split_ifs <;> decide
  have hmark : base.mark.all isWordLetter = true := by cases base <;> decide
  simp only [numeralLiteral, Literal.integer, Literal.numeric, Numeral.text, List.all_append, hsign,
    hmark, Numeral.all_digitsOf, hsuffix,
    Bool.and_true]

theorem all_decimalLiteral (n : Int) : (decimalLiteral n).text.all isWordLetter = true := by
  refine all_numeralLiteral n .decimal ?_
  split_ifs <;> decide

theorem all_basedLiteral (n : Int) (base : Base) :
    (basedLiteral n base).text.all isWordLetter = true := by
  rw [basedLiteral]
  split_ifs
  · exact all_decimalLiteral n
  · exact all_numeralLiteral n base rfl

theorem all_doubleLiteral (x : Binary64) : (doubleLiteral x).text.all isWordLetter = true := by
  cases x with
  | nan => decide
  | infinity negative => cases negative <;> decide
  | finite negative m e => exact Binary64.all_text (.finite negative m e)

/-- **The literal of a default is a string literal or a word.** -/
theorem isSpelled_of_reflect {c : Constant} {literal : Literal} {nullable : Bool}
    (h : c.reflect = .ok (literal, nullable)) :
    literal.IsSpelled := by
  -- an integer form gives a word for the integer that counts
  have hinteger : ∀ {write : Int → Literal}, (∀ n, (write n).text.all isWordLetter = true) →
      (c.longValue.map fun n ↦ (write n, false)) = .ok (literal, nullable) → literal.IsSpelled := by
    intro write hwrite hmap
    rcases hlong : c.longValue with cause | n
    · rw [hlong] at hmap
      exact absurd hmap (by simp [Except.map])
    · rw [hlong] at hmap
      obtain ⟨rfl, -⟩ := Prod.mk.inj (Except.ok.inj hmap)
      exact Or.inr (hwrite n)
  rw [reflect] at h
  split at h
  · exact hinteger all_decimalLiteral h
  · exact hinteger (fun n ↦ all_basedLiteral n .hexadecimal) h
  · exact hinteger (fun n ↦ all_basedLiteral n .binary) h
  · split at h
    · obtain ⟨rfl, -⟩ := Prod.mk.inj (Except.ok.inj h)
      exact Or.inr (all_doubleLiteral _)
    · exact absurd h (by simp)
  · split at h
    · obtain ⟨rfl, -⟩ := Prod.mk.inj (Except.ok.inj h)
      exact Or.inl ⟨_, rfl⟩
    · split at h
      · obtain ⟨rfl, -⟩ := Prod.mk.inj (Except.ok.inj h)
        exact Or.inl ⟨_, rfl⟩
      · exact absurd h (by simp)
  · obtain ⟨rfl, -⟩ := Prod.mk.inj (Except.ok.inj h)
    exact Or.inr (by cases c.value.isTrue <;> decide)
  · obtain ⟨rfl, -⟩ := Prod.mk.inj (Except.ok.inj h)
    exact Or.inr (by decide)
  · obtain ⟨rfl, -⟩ := Prod.mk.inj (Except.ok.inj h)
    exact Or.inr (by decide)

end Constant

/-! ### Reading literals -/

namespace Literal

/-- A text that may follow a literal: it does not go on a word and does not start with a quote. -/
def FollowsLiteral (u : Text) : Prop := Text.StopsRun (fun c ↦ isWordLetter c || c = 34) u

theorem stopsRun_of_followsLiteral {u : Text} (h : FollowsLiteral u) :
    Text.StopsRun isWordLetter u := by
  intro c hc
  have := h c hc
  simp only [Bool.or_eq_false_iff] at this
  exact this.1

/-- A word is no string literal, in front of a text that may follow a literal. -/
theorem word_append_ne_quote {word t u v : Text} (hword : word.all isWordLetter = true)
    (hu : FollowsLiteral u) :
    word ++ u ≠ StringLiteral.quote t ++ v := by
  intro h
  have hquote : (word ++ u).head? = some 34 := by rw [h]; rfl
  cases word with
  | nil =>
    have := hu 34 hquote
    exact absurd this (by decide)
  | cons c word =>
    obtain rfl : c = 34 := Option.some.inj hquote
    rw [List.all_cons, Bool.and_eq_true] at hword
    exact absurd hword.1 (by decide)

/-- **Literals are told apart** where a text follows that may follow a literal. -/
theorem tellsApart {a b : Literal} (ha : a.IsSpelled) (hb : b.IsSpelled) :
    Text.TellsApart FollowsLiteral text text a b := by
  intro u v hu hv h
  -- two string literals, a string literal and a word in either order, two words
  rcases ha with ⟨s, hs⟩ | ha <;> rcases hb with ⟨t, ht⟩ | hb
  · rw [hs, ht] at h ⊢
    obtain ⟨rfl, hend⟩ := StringLiteral.quote_append_inj h
    exact ⟨rfl, hend⟩
  · rw [hs] at h
    exact absurd h.symm (word_append_ne_quote hb hv)
  · rw [ht] at h
    exact absurd h (word_append_ne_quote ha hu)
  · have hu' := stopsRun_of_followsLiteral hu
    have hv' := stopsRun_of_followsLiteral hv
    exact Text.run_append_inj ha hb hu' hv' h

/-- A literal never ends a line. -/
theorem IsSpelled.not_mem_lineFeed {literal : Literal} (h : literal.IsSpelled) :
    10 ∉ literal.text := by
  rcases h with ⟨t, ht⟩ | hword
  · rw [ht]
    intro hmem
    exact absurd (StringLiteral.not_needsNumber_of_mem_quote hmem) (by decide)
  · intro hmem
    exact absurd (List.all_eq_true.1 hword 10 hmem) (by decide)

end Literal

end SignatureBridge
