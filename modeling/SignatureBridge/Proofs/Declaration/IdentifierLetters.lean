import Mathlib.Data.List.Basic
import SignatureBridge.Declaration.Identifier
import SignatureBridge.Proofs.Text.Delimited

/-!
# Letters of identifiers

A name is plain if it is made of Latin letters, digits and underscores. In the ASCII range the case
mappings are the well-known ones (`exists_upper_eq`, `exists_lower_eq`): of the tables of mappings
only one run reaches into that range (`exists_mapCase_eq`). So a letter keeps its small form in
either case (`lower_upper`, `lower_lower`), and the identifier of a plain name is made of plain
letters and the at sign that escapes a reserved word (`all_normalize`). Cutting a name into words
neither adds nor changes a letter; that is read off from `Text.join_split`.
-/

namespace SignatureBridge

namespace CodePoint

/-- A Latin letter, a digit or the underscore. -/
def isPlain (c : CodePoint) : Bool := c.isAsciiLetter || c.isAsciiDigit || c = 95

/-- A letter of an identifier: a plain one or the at sign. -/
def isIdentifierLetter (c : CodePoint) : Bool := c.isPlain || c = 64

theorem isPlain_iff {c : CodePoint} :
    c.isPlain = true ↔
      (65 ≤ c.val ∧ c.val ≤ 90) ∨ (97 ≤ c.val ∧ c.val ≤ 122) ∨
        (48 ≤ c.val ∧ c.val ≤ 57) ∨ c.val = 95 := by
  have h95 : c = 95 ↔ c.val = 95 := Fin.ext_iff
  simp only [isPlain, isAsciiLetter, isAsciiDigit, Bool.or_eq_true, Bool.and_eq_true,
    decide_eq_true_eq, h95, or_assoc]

/-! ### Case in the ASCII range -/

/-- A case mapping of which only the first run reaches into the ASCII range moves the 26 letters of
that run there and no others. -/
theorem exists_mapCase_eq (start : Nat) (shift : Int) {expansions : List (Nat × Text)}
    {runs : List CaseRun} (hexpansions : ∀ e ∈ expansions, 128 ≤ e.1)
    (hruns : ∀ r ∈ runs, 128 ≤ r.first) (hlow : 0 ≤ start + shift) (hhigh : start + shift < 128)
    {c : CodePoint} (h : c.val < 128) :
    ∃ x : CodePoint, mapCase expansions (⟨start, 26, 1, shift⟩ :: runs) c = [x] ∧
      (x.val : Int) = if start ≤ c.val ∧ c.val ≤ start + 25 then c.val + shift else c.val := by
  have hlookup : expansions.lookup c.val = none := by
    rw [List.lookup_eq_none_iff]
    intro e he
    have := hexpansions e he
    exact bne_iff_ne.2 (by omega)
  have hfind : runs.find? (·.holds c) = none := by
    rw [List.find?_eq_none]
    intro r hr
    have := hruns r hr
    simp only [CaseRun.holds, Bool.and_eq_true, decide_eq_true_eq]
    omega
  by_cases hmoved : start ≤ c.val ∧ c.val ≤ start + 25
  · have hholds : (CaseRun.mk start 26 1 shift).holds c = true := by
      simp only [CaseRun.holds, Bool.and_eq_true, decide_eq_true_eq]
      omega
    refine ⟨(CaseRun.mk start 26 1 shift).move c, ?_, ?_⟩
    · rw [mapCase, hlookup, List.find?_cons, hholds]
    · rw [if_pos hmoved]
      show (((c.val + shift).toNat % 0x110000 : Nat) : Int) = c.val + shift
      omega
  · have hholds : (CaseRun.mk start 26 1 shift).holds c = false := by
      rw [← Bool.not_eq_true]
      simp only [CaseRun.holds, Bool.and_eq_true, decide_eq_true_eq]
      omega
    refine ⟨c, ?_, ?_⟩
    · rw [mapCase, hlookup, List.find?_cons, hholds, hfind]
    · rw [if_neg hmoved]

/-- In the ASCII range the capital form is one letter, which differs for the small Latin letters
only. -/
theorem exists_upper_eq {c : CodePoint} (h : c.val < 128) :
    ∃ x : CodePoint, c.upper = [x] ∧
      x.val = if 97 ≤ c.val ∧ c.val ≤ 122 then c.val - 32 else c.val := by
  have hexpansions : ∀ e ∈ upperExpansions, 128 ≤ e.1 := by decide +kernel
  have hruns : ∀ r ∈ upperRuns.tail, 128 ≤ r.first := by decide +kernel
  obtain ⟨x, hx, hval⟩ := exists_mapCase_eq 97 (-32) hexpansions hruns (by decide) (by decide) h
  refine ⟨x, hx, ?_⟩
  split_ifs at hval ⊢ <;> omega

/-- In the ASCII range the small form is one letter, which differs for the capital Latin letters
only. -/
theorem exists_lower_eq {c : CodePoint} (h : c.val < 128) :
    ∃ x : CodePoint, c.lower = [x] ∧
      x.val = if 65 ≤ c.val ∧ c.val ≤ 90 then c.val + 32 else c.val := by
  have hexpansions : ∀ e ∈ lowerExpansions, 128 ≤ e.1 := by decide +kernel
  have hruns : ∀ r ∈ lowerRuns.tail, 128 ≤ r.first := by decide +kernel
  obtain ⟨x, hx, hval⟩ := exists_mapCase_eq 65 32 hexpansions hruns (by decide) (by decide) h
  refine ⟨x, hx, ?_⟩
  split_ifs at hval ⊢ <;> omega

/-- The capital form of a plain letter is plain. -/
theorem all_isPlain_upper {c : CodePoint} (h : c.isPlain = true) : c.upper.all isPlain = true := by
  rw [isPlain_iff] at h
  obtain ⟨x, hx, hval⟩ := exists_upper_eq (c := c) (by omega)
  rw [hx, List.all_cons, List.all_nil, Bool.and_true, isPlain_iff, hval]
  split_ifs <;> omega

/-- The small form of a plain letter is plain. -/
theorem all_isPlain_lower {c : CodePoint} (h : c.isPlain = true) : c.lower.all isPlain = true := by
  rw [isPlain_iff] at h
  obtain ⟨x, hx, hval⟩ := exists_lower_eq (c := c) (by omega)
  rw [hx, List.all_cons, List.all_nil, Bool.and_true, isPlain_iff, hval]
  split_ifs <;> omega

/-! ### Letters and digits -/

/-- A small Latin letter. -/
def isSmallLetter (c : CodePoint) : Bool := 97 ≤ c.val && c.val ≤ 122

/-- A Latin letter or a digit. -/
def isAlphanumeric (c : CodePoint) : Bool := c.isAsciiLetter || c.isAsciiDigit

theorem isSmallLetter_iff {c : CodePoint} :
    c.isSmallLetter = true ↔ 97 ≤ c.val ∧ c.val ≤ 122 := by
  simp [isSmallLetter]

theorem isAsciiDigit_iff {c : CodePoint} : c.isAsciiDigit = true ↔ 48 ≤ c.val ∧ c.val ≤ 57 := by
  simp [isAsciiDigit]

theorem isAlphanumeric_iff {c : CodePoint} :
    c.isAlphanumeric = true ↔ c.isPlain = true ∧ c ≠ 95 := by
  have h95 : c = 95 ↔ c.val = 95 := Fin.ext_iff
  rw [ne_eq, h95, isPlain_iff]
  simp only [isAlphanumeric, isAsciiLetter, isAsciiDigit, Bool.or_eq_true, Bool.and_eq_true,
    decide_eq_true_eq]
  omega

theorem isPlain_of_isAlphanumeric {c : CodePoint} (h : c.isAlphanumeric = true) :
    c.isPlain = true :=
  (isAlphanumeric_iff.1 h).1

theorem isAsciiLetter_of_isSmallLetter {c : CodePoint} (h : c.isSmallLetter = true) :
    c.isAsciiLetter = true := by
  rw [isSmallLetter_iff] at h
  simp [isAsciiLetter, h]

theorem not_isAsciiDigit_of_isSmallLetter {c : CodePoint} (h : c.isSmallLetter = true) :
    c.isAsciiDigit = false := by
  rw [isSmallLetter_iff] at h
  rw [← Bool.not_eq_true, isAsciiDigit_iff]
  omega

theorem isAlphanumeric_of_small {c : CodePoint}
    (h : c.isSmallLetter = true ∨ c.isAsciiDigit = true) : c.isAlphanumeric = true := by
  rw [isAlphanumeric, Bool.or_eq_true]
  exact h.imp_left isAsciiLetter_of_isSmallLetter

theorem lt_of_isPlain {c : CodePoint} (h : c.isPlain = true) : c.val < 128 := by
  rw [isPlain_iff] at h
  omega

/-- In the ASCII range the digits are the ten that are used everywhere. -/
theorem isDigit_eq {c : CodePoint} (h : c.val < 128) : c.isDigit = c.isAsciiDigit := by
  have hothers : ∀ r ∈ digitRanges.tail, 128 ≤ r.1 := by decide +kernel
  have hranges : digitRanges = (48, 57) :: digitRanges.tail := rfl
  have htail : (digitRanges.tail.any fun r ↦ r.1 ≤ c.val && c.val ≤ r.2) = false := by
    rw [List.any_eq_false]
    intro r hr
    have := hothers r hr
    simp only [Bool.and_eq_true, decide_eq_true_eq]
    omega
  rw [isDigit, inRanges, hranges, List.any_cons, htail, Bool.or_false, isAsciiDigit]

/-! ### Small forms -/

/-- Capital form and small form have the same small form. -/
theorem lower_upper {c : CodePoint} (h : c.val < 128) : Text.lower c.upper = c.lower := by
  obtain ⟨x, hx, hxval⟩ := exists_upper_eq h
  obtain ⟨y, hy, hyval⟩ := exists_lower_eq h
  obtain ⟨z, hz, hzval⟩ := exists_lower_eq (c := x) (by rw [hxval]; split_ifs <;> omega)
  have hyz : z = y := by
    refine Fin.ext ?_
    rw [hzval, hyval, hxval]
    split_ifs <;> omega
  rw [hx, hy, Text.lower, List.flatMap_singleton, hz, hyz]

theorem lower_lower {c : CodePoint} (h : c.val < 128) : Text.lower c.lower = c.lower := by
  obtain ⟨y, hy, hyval⟩ := exists_lower_eq h
  obtain ⟨z, hz, hzval⟩ := exists_lower_eq (c := y) (by rw [hyval]; split_ifs <;> omega)
  have hyz : z = y := by
    refine Fin.ext ?_
    rw [hzval, hyval]
    split_ifs <;> omega
  rw [hy, Text.lower, List.flatMap_singleton, hz, hyz]

/-- What is no capital letter is its own small form. -/
theorem lower_of_small {c : CodePoint} (h : c.isSmallLetter = true ∨ c.isAsciiDigit = true) :
    c.lower = [c] := by
  rw [isSmallLetter_iff, isAsciiDigit_iff] at h
  obtain ⟨y, hy, hyval⟩ := exists_lower_eq (c := c) (by omega)
  rw [if_neg (by omega)] at hyval
  rw [hy, Fin.ext hyval]

/-- The small form of a letter or digit is one small letter or digit. -/
theorem exists_lower_of_isAlphanumeric {c : CodePoint} (h : c.isAlphanumeric = true) :
    ∃ x, c.lower = [x] ∧ (x.isSmallLetter = true ∨ x.isAsciiDigit = true) := by
  rw [isAlphanumeric_iff, isPlain_iff, ne_eq, Fin.ext_iff] at h
  have h95 : (95 : CodePoint).val = 95 := rfl
  rw [h95] at h
  obtain ⟨y, hy, hyval⟩ := exists_lower_eq (c := c) (by omega)
  refine ⟨y, hy, ?_⟩
  rw [isSmallLetter_iff, isAsciiDigit_iff, hyval]
  split_ifs <;> omega

end CodePoint

/-! ### Words of a name -/

namespace Text

theorem lower_append (s t : Text) : lower (s ++ t) = lower s ++ lower t := List.flatMap_append

theorem all_isPlain_of_isAlphanumeric {t : Text} (h : t.all CodePoint.isAlphanumeric = true) :
    t.all CodePoint.isPlain = true :=
  List.all_eq_true.2 fun c hc ↦ CodePoint.isPlain_of_isAlphanumeric (List.all_eq_true.1 h c hc)

/-- A piece of a text holds nothing but letters of the text. -/
theorem mem_of_mem_split {sep : CodePoint} {t piece : Text} {c : CodePoint}
    (hpiece : piece ∈ split sep t) (hc : c ∈ piece) :
    c ∈ t := by
  have h : c ∈ join [sep] (split sep t) := mem_join_of_mem hpiece hc
  rwa [join_split] at h

end Text

/-! ### Identifiers of plain names -/

namespace Identifier

theorem all_capitalized {word : Text} (h : word.all CodePoint.isPlain = true) :
    (capitalized word).all CodePoint.isPlain = true := by
  cases word with
  | nil => rfl
  | cons c rest =>
    rw [List.all_cons, Bool.and_eq_true] at h
    rw [capitalized, List.all_append, CodePoint.all_isPlain_upper h.1, h.2, Bool.and_true]

theorem all_uncapitalized {word : Text} (h : word.all CodePoint.isPlain = true) :
    (uncapitalized word).all CodePoint.isPlain = true := by
  cases word with
  | nil => rfl
  | cons c rest =>
    rw [List.all_cons, Bool.and_eq_true] at h
    rw [uncapitalized, List.all_append, CodePoint.all_isPlain_lower h.1, h.2, Bool.and_true]

/-- Cutting off the underscores in front leaves a plain name plain, on both sides of the cut. -/
theorem all_of_cut {name : Text} (h : name.all CodePoint.isPlain = true) :
    (leadingUnderscores name).all CodePoint.isPlain = true ∧
      (withoutUnderscores name).all CodePoint.isPlain = true := by
  rw [List.all_eq_true] at h
  refine ⟨List.all_eq_true.2 fun c hc ↦ h c ?_, List.all_eq_true.2 fun c hc ↦ h c ?_⟩
  · exact (List.takeWhile_prefix _).subset hc
  · exact (List.dropWhile_suffix _).subset hc

theorem all_toPascalCase {name : Text} (h : name.all CodePoint.isPlain = true) :
    (toPascalCase name).all CodePoint.isPlain = true := by
  obtain ⟨hleading, hrest⟩ := all_of_cut h
  -- a word is a piece of the name, so it has no letter that the name has not
  have hwords : ∀ word ∈ words (withoutUnderscores name), word.all CodePoint.isPlain = true := by
    intro word hword
    refine List.all_eq_true.2 fun c hc ↦ List.all_eq_true.1 hrest c ?_
    exact Text.mem_of_mem_split (List.mem_of_mem_filter hword) hc
  rw [toPascalCase, List.all_append, hleading, Bool.true_and, List.all_eq_true]
  intro c hc
  obtain ⟨word, hword, hc⟩ := List.mem_flatMap.1 hc
  exact List.all_eq_true.1 (all_capitalized (hwords word hword)) c hc

theorem all_toCamelCase {name : Text} (h : name.all CodePoint.isPlain = true) :
    (toCamelCase name).all CodePoint.isPlain = true := by
  obtain ⟨hleading, hrest⟩ := all_of_cut (all_toPascalCase h)
  rw [toCamelCase, List.all_append, hleading, all_uncapitalized hrest, Bool.true_and]

/-- **The identifier of a plain name** is made of plain letters and the at sign. -/
theorem all_normalize {name : Text} (h : name.all CodePoint.isPlain = true) :
    (normalize name).all CodePoint.isIdentifierLetter = true := by
  have hcamel : (toCamelCase name).all CodePoint.isIdentifierLetter = true := by
    refine List.all_eq_true.2 fun c hc ↦ ?_
    rw [CodePoint.isIdentifierLetter, List.all_eq_true.1 (all_toCamelCase h) c hc, Bool.true_or]
  -- escaping adds an at sign or an underscore in front, or nothing
  rw [normalize, escape.eq_def]
  split_ifs
  · rw [List.all_cons, hcamel]
    rfl
  · split
    · rfl
    · split_ifs
      · rw [List.all_cons, hcamel]
        rfl
      · exact hcamel

end Identifier

end SignatureBridge
