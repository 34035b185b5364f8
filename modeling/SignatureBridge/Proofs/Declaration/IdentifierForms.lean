import SignatureBridge.Proofs.Declaration.IdentifierLetters
import SignatureBridge.Proofs.Text.Cutting

/-!
# The forms of identifiers

An identifier that comes from a plain name has one of four forms (`Identifier.IsNormal`): a reserved
word behind an at sign, a run of underscores, a word in lower camel case, or a number with what
follows it, the last two behind a run of underscores. These are the normal forms of
`Identifier.normalize`: it gives nothing else on plain names (`isNormal_normalize`) and leaves each
of them alone (`normalize_of_isNormal`).

Both come from one equation. A name is a run of underscores and a rest that starts with none; in
lower camel case the run stays and the words of the rest are run together
(`toCamelCase_run`). Escaping then looks at the first letter only.

The reserved words are listed here a second time, by what they are for, so that the results do not
lean on the list that the function looks them up in (`mem_keywords_iff`).
-/

namespace SignatureBridge

namespace Identifier

/-! ### Reserved words -/

/-- The reserved words of C#: predefined types, kinds of declaration, modifiers, modifiers of
parameters, values, operators, statements. -/
def reservedWords : List Text := ([
  "bool", "byte", "char", "decimal", "double", "float", "int", "long", "object", "sbyte", "short",
  "string", "uint", "ulong", "ushort", "void",
  "class", "delegate", "enum", "event", "explicit", "implicit", "interface", "namespace",
  "operator", "struct", "using",
  "abstract", "const", "extern", "internal", "override", "private", "protected", "public",
  "readonly", "sealed", "static", "unsafe", "virtual", "volatile",
  "in", "out", "params", "ref",
  "base", "default", "false", "null", "this", "true",
  "as", "checked", "is", "new", "sizeof", "stackalloc", "typeof", "unchecked",
  "break", "case", "catch", "continue", "do", "else", "finally", "fixed", "for", "foreach", "goto",
  "if", "lock", "return", "switch", "throw", "try", "while"] : List String).map Text.ofString

/-- A reserved word of C#. -/
def IsReserved (t : Text) : Prop := t ∈ reservedWords

instance (t : Text) : Decidable (IsReserved t) := inferInstanceAs (Decidable (t ∈ reservedWords))

/-- **The words that are escaped are the reserved ones.** -/
theorem mem_keywords_iff {t : Text} : t ∈ keywords ↔ IsReserved t := by
  have hforth : ∀ w ∈ keywords, w ∈ reservedWords := by decide +kernel
  have hback : ∀ w ∈ reservedWords, w ∈ keywords := by decide +kernel
  exact ⟨hforth t, hback t⟩

/-- A reserved word is made of small letters. -/
theorem IsReserved.all_isSmallLetter {t : Text} (h : IsReserved t) :
    t.all CodePoint.isSmallLetter = true := by
  have hall : ∀ w ∈ reservedWords, w.all CodePoint.isSmallLetter = true := by decide +kernel
  exact hall t h

theorem IsReserved.all_isPlain {t : Text} (h : IsReserved t) :
    t.all CodePoint.isPlain = true :=
  Text.all_isPlain_of_isAlphanumeric <| List.all_eq_true.2 fun c hc ↦
    CodePoint.isAlphanumeric_of_small (.inl (List.all_eq_true.1 h.all_isSmallLetter c hc))

theorem not_isReserved_nil : ¬ IsReserved [] := by decide +kernel

theorem not_isReserved_cons {c : CodePoint} (h : c.isSmallLetter = false) (rest : Text) :
    ¬ IsReserved (c :: rest) := by
  intro hreserved
  have hc := List.all_eq_true.1 hreserved.all_isSmallLetter c List.mem_cons_self
  exact Bool.false_ne_true (h.symm.trans hc)

/-! ### Escaping -/

theorem escape_of_isReserved {t : Text} (h : IsReserved t) : escape t = 64 :: t := by
  rw [escape.eq_def, if_pos (List.contains_iff_mem.2 (mem_keywords_iff.2 h))]

theorem escape_nil : escape [] = [95] := by
  rw [escape.eq_def,
    if_neg (by rw [List.contains_iff_mem, mem_keywords_iff]; exact not_isReserved_nil)]

/-- What is not reserved gets an underscore exactly if it starts with a digit. -/
theorem escape_cons {c : CodePoint} {rest : Text} (h : ¬ IsReserved (c :: rest)) :
    escape (c :: rest) = if c.isDigit then 95 :: c :: rest else c :: rest := by
  rw [escape.eq_def, if_neg (by rwa [List.contains_iff_mem, mem_keywords_iff])]

/-! ### Lower camel case -/

/-- The words of a text between underscores run together, each with a capital. -/
def runTogether (t : Text) : Text := (words t).flatMap capitalized

/-- A plain name is a run of underscores and a rest that starts with none. -/
theorem exists_run_eq {name : Text} (h : name.all CodePoint.isPlain = true) :
    ∃ n rest, name = List.replicate n 95 ++ rest ∧ Text.StopsRun (· = 95) rest ∧
      rest.all CodePoint.isPlain = true := by
  refine ⟨(leadingUnderscores name).length, withoutUnderscores name, ?_,
    Text.stopsRun_dropWhile _ name, (all_of_cut h).2⟩
  rw [leadingUnderscores, ← Text.takeWhile_eq_replicate 95 name, withoutUnderscores,
    List.takeWhile_append_dropWhile]

theorem leadingUnderscores_run (n : Nat) {rest : Text} (h : Text.StopsRun (· = 95) rest) :
    leadingUnderscores (List.replicate n 95 ++ rest) = List.replicate n 95 :=
  Text.takeWhile_run (by simp) h

theorem withoutUnderscores_run (n : Nat) {rest : Text} (h : Text.StopsRun (· = 95) rest) :
    withoutUnderscores (List.replicate n 95 ++ rest) = rest :=
  Text.dropWhile_run (by simp) h

theorem stopsRun_of_isAlphanumeric {t : Text} (h : t.all CodePoint.isAlphanumeric = true) :
    Text.StopsRun (· = 95) t := by
  intro c hc
  have := List.all_eq_true.1 h c (List.mem_of_mem_head? hc)
  exact decide_eq_false (CodePoint.isAlphanumeric_iff.1 this).2

/-- A word of a plain text is made of letters and digits. -/
theorem all_isAlphanumeric_of_mem_words {t word : Text} (h : t.all CodePoint.isPlain = true)
    (hword : word ∈ words t) : word.all CodePoint.isAlphanumeric = true := by
  have hpiece := List.mem_of_mem_filter hword
  refine List.all_eq_true.2 fun c hc ↦ CodePoint.isAlphanumeric_iff.2 ⟨?_, ?_⟩
  · exact List.all_eq_true.1 h c (Text.mem_of_mem_split hpiece hc)
  · exact fun h95 ↦ Text.not_mem_of_mem_split hpiece (h95 ▸ hc)

theorem all_isAlphanumeric_capitalized {word : Text}
    (h : word.all CodePoint.isAlphanumeric = true) :
    (capitalized word).all CodePoint.isAlphanumeric = true := by
  cases word with
  | nil => rfl
  | cons c rest =>
    rw [List.all_cons, Bool.and_eq_true, CodePoint.isAlphanumeric_iff, CodePoint.isPlain_iff] at h
    have h95 : c ≠ 95 ↔ c.val ≠ 95 := Fin.ext_iff.not
    obtain ⟨x, hx, hval⟩ := CodePoint.exists_upper_eq (c := c) (by omega)
    have hx95 : x ≠ 95 ↔ x.val ≠ 95 := Fin.ext_iff.not
    rw [capitalized, hx, List.singleton_append, List.all_cons, h.2, Bool.and_true,
      CodePoint.isAlphanumeric_iff, CodePoint.isPlain_iff, hx95, hval]
    rw [h95] at h
    split_ifs <;> omega

theorem all_isAlphanumeric_uncapitalized {word : Text}
    (h : word.all CodePoint.isAlphanumeric = true) :
    (uncapitalized word).all CodePoint.isAlphanumeric = true := by
  cases word with
  | nil => rfl
  | cons c rest =>
    rw [List.all_cons, Bool.and_eq_true] at h
    obtain ⟨x, hx, hsmall⟩ := CodePoint.exists_lower_of_isAlphanumeric h.1
    rw [uncapitalized, hx, List.singleton_append, List.all_cons, h.2,
      CodePoint.isAlphanumeric_of_small hsmall, Bool.and_true]

theorem all_isAlphanumeric_runTogether {t : Text} (h : t.all CodePoint.isPlain = true) :
    (runTogether t).all CodePoint.isAlphanumeric = true := by
  refine List.all_eq_true.2 fun c hc ↦ ?_
  obtain ⟨word, hword, hc⟩ := List.mem_flatMap.1 hc
  exact List.all_eq_true.1
    (all_isAlphanumeric_capitalized (all_isAlphanumeric_of_mem_words h hword)) c hc

/-- **In lower camel case** the underscores in front stay, the words behind them are run together,
and the first of these starts small again. -/
theorem toCamelCase_run (n : Nat) {rest : Text} (hstop : Text.StopsRun (· = 95) rest)
    (hstop' : Text.StopsRun (· = 95) (runTogether rest)) :
    toCamelCase (List.replicate n 95 ++ rest) =
      List.replicate n 95 ++ uncapitalized (runTogether rest) := by
  have hpascal : toPascalCase (List.replicate n 95 ++ rest) =
      List.replicate n 95 ++ runTogether rest := by
    rw [toPascalCase, leadingUnderscores_run n hstop, withoutUnderscores_run n hstop, runTogether]
  rw [toCamelCase, hpascal, leadingUnderscores_run n hstop', withoutUnderscores_run n hstop']

/-- A text without underscores is its only word. -/
theorem runTogether_of_not_mem {c : CodePoint} {rest : Text} (h : 95 ∉ c :: rest) :
    runTogether (c :: rest) = capitalized (c :: rest) := by
  have hwords : words (c :: rest) = [c :: rest] := by
    rw [words, Text.split_of_not_mem h]
    rfl
  rw [runTogether, hwords, List.flatMap_singleton]

/-- A text without underscores that starts small is not changed, whatever underscores stand in
front. -/
theorem toCamelCase_of_not_mem (n : Nat) {c : CodePoint} {rest : Text} (hlt : c.val < 128)
    (hlower : c.lower = [c]) (hnone : 95 ∉ c :: rest) :
    toCamelCase (List.replicate n 95 ++ c :: rest) = List.replicate n 95 ++ c :: rest := by
  have hc : c ≠ 95 := fun h ↦ hnone (h ▸ List.mem_cons_self)
  obtain ⟨x, hx, hval⟩ := CodePoint.exists_upper_eq hlt
  have hx95 : x ≠ 95 := by
    have hval95 : ∀ y : CodePoint, y ≠ 95 ↔ y.val ≠ 95 := fun y ↦ Fin.ext_iff.not
    rw [hval95] at hc ⊢
    rw [hval]
    split_ifs <;> omega
  have hback : x.lower = [c] := by
    have h := CodePoint.lower_upper hlt
    rwa [hx, Text.lower, List.flatMap_singleton, hlower] at h
  have htogether : runTogether (c :: rest) = x :: rest := by
    rw [runTogether_of_not_mem hnone, capitalized, hx, List.singleton_append]
  rw [toCamelCase_run n (Text.stopsRun_cons (decide_eq_false hc) rest), htogether, uncapitalized,
    hback, List.singleton_append]
  rw [htogether]
  exact Text.stopsRun_cons (decide_eq_false hx95) rest

/-! ### Normal forms -/

/-- The texts that are identifiers of plain names. -/
inductive IsNormal : Text → Prop
  /-- A reserved word behind an at sign. -/
  | reserved {word : Text} (h : IsReserved word) : IsNormal (64 :: word)
  /-- A run of underscores. -/
  | blank (n : Nat) : IsNormal (List.replicate (n + 1) 95)
  /-- A word with a small letter in front, perhaps behind underscores, which is not reserved. -/
  | word (n : Nat) {c : CodePoint} {rest : Text} (hc : c.isSmallLetter = true)
    (hrest : rest.all CodePoint.isAlphanumeric = true)
    (hreserved : ¬ IsReserved (List.replicate n 95 ++ c :: rest)) :
    IsNormal (List.replicate n 95 ++ c :: rest)
  /-- A word with a digit in front, behind underscores. -/
  | number (n : Nat) {c : CodePoint} {rest : Text} (hc : c.isAsciiDigit = true)
    (hrest : rest.all CodePoint.isAlphanumeric = true) :
    IsNormal (List.replicate (n + 1) 95 ++ c :: rest)

/-- An identifier of C# in Latin letters: an underscore or a letter, then also digits; there may be
an at sign in front. -/
def IsToken (t : Text) : Prop :=
  ∃ mark c rest, t = mark ++ c :: rest ∧ (mark = [] ∨ mark = [64]) ∧
    (c.isAsciiLetter = true ∨ c = 95) ∧ rest.all CodePoint.isPlain = true

theorem isDigit_underscore : CodePoint.isDigit 95 = false := by decide +kernel

/-- A run of underscores is not touched by escaping, whatever follows. -/
theorem escape_underscores (n : Nat) (rest : Text) :
    escape (List.replicate (n + 1) 95 ++ rest) = List.replicate (n + 1) 95 ++ rest := by
  rw [List.replicate_succ, List.cons_append, escape_cons (not_isReserved_cons (by decide) _),
    isDigit_underscore]
  rfl

/-- Escaping makes a normal form of a word in lower camel case behind underscores. -/
theorem isNormal_escape (n : Nat) {t : Text} (h : t.all CodePoint.isAlphanumeric = true) :
    IsNormal (escape (List.replicate n 95 ++ uncapitalized t)) := by
  by_cases hreserved : IsReserved (List.replicate n 95 ++ uncapitalized t)
  · rw [escape_of_isReserved hreserved]
    exact .reserved hreserved
  cases t with
  | nil =>
    rw [uncapitalized, List.append_nil]
    cases n with
    | zero =>
      rw [List.replicate_zero, escape_nil]
      exact .blank 0
    | succ n =>
      have hescape := escape_underscores n []
      rw [List.append_nil] at hescape
      rw [hescape]
      exact .blank n
  | cons c rest =>
    rw [List.all_cons, Bool.and_eq_true] at h
    obtain ⟨x, hx, hsmall⟩ := CodePoint.exists_lower_of_isAlphanumeric h.1
    rw [uncapitalized, hx, List.singleton_append] at hreserved ⊢
    have hdigit : x.isDigit = x.isAsciiDigit := CodePoint.isDigit_eq (CodePoint.lt_of_isPlain
      (CodePoint.isPlain_of_isAlphanumeric (CodePoint.isAlphanumeric_of_small hsmall)))
    cases n with
    | zero =>
      rw [List.replicate_zero, List.nil_append] at hreserved ⊢
      rw [escape_cons hreserved, hdigit]
      split_ifs with hx'
      · exact .number 0 hx' h.2
      · exact .word 0 (hsmall.resolve_right hx') h.2 hreserved
    | succ n =>
      rw [escape_underscores]
      rcases hsmall with hx' | hx'
      · exact .word (n + 1) hx' h.2 hreserved
      · exact .number n hx' h.2

/-- **The identifier of a plain name is a normal form.** -/
theorem isNormal_normalize {name : Text} (h : name.all CodePoint.isPlain = true) :
    IsNormal (normalize name) := by
  obtain ⟨n, rest, rfl, hstop, hrest⟩ := exists_run_eq h
  have halphanumeric := all_isAlphanumeric_runTogether hrest
  rw [normalize, toCamelCase_run n hstop (stopsRun_of_isAlphanumeric halphanumeric)]
  exact isNormal_escape n halphanumeric

/-- Lower camel case leaves a word alone that starts small. -/
theorem toCamelCase_of_small (n : Nat) {c : CodePoint} {rest : Text}
    (hc : c.isSmallLetter = true ∨ c.isAsciiDigit = true)
    (hrest : rest.all CodePoint.isAlphanumeric = true) :
    toCamelCase (List.replicate n 95 ++ c :: rest) = List.replicate n 95 ++ c :: rest := by
  have halphanumeric := CodePoint.isAlphanumeric_of_small hc
  refine toCamelCase_of_not_mem n
    (CodePoint.lt_of_isPlain (CodePoint.isPlain_of_isAlphanumeric halphanumeric))
    (CodePoint.lower_of_small hc) fun hmem ↦ ?_
  have hword : (c :: rest).all CodePoint.isAlphanumeric = true := by
    rw [List.all_cons, hrest, halphanumeric, Bool.and_true]
  exact (CodePoint.isAlphanumeric_iff.1 (List.all_eq_true.1 hword 95 hmem)).2 rfl

theorem toCamelCase_underscores (n : Nat) :
    toCamelCase (List.replicate n 95) = List.replicate n 95 := by
  have h : toCamelCase (List.replicate n 95 ++ []) = _ :=
    toCamelCase_run n (Text.stopsRun_nil _) (Text.stopsRun_nil _)
  rwa [List.append_nil, show uncapitalized (runTogether []) = [] from rfl, List.append_nil] at h

/-- A reserved word is escaped, and once only. -/
theorem normalize_of_isReserved {word : Text} (h : IsReserved word) :
    normalize word = 64 :: word ∧ normalize (64 :: word) = 64 :: word := by
  have hsmall := h.all_isSmallLetter
  have hnone : 95 ∉ word := fun hmem ↦
    absurd (List.all_eq_true.1 hsmall 95 hmem) (by decide)
  have hmarked := toCamelCase_of_not_mem 0 (by decide) (by decide +kernel)
    (List.not_mem_cons_of_ne_of_not_mem (by decide : (95 : CodePoint) ≠ 64) hnone)
  rw [List.replicate_zero, List.nil_append] at hmarked
  have hdigit : CodePoint.isDigit 64 = false := by decide +kernel
  refine ⟨?_, ?_⟩
  · rcases word with - | ⟨c, rest⟩
    · exact absurd h not_isReserved_nil
    · rw [List.all_cons, Bool.and_eq_true] at hsmall
      have hcamel := toCamelCase_of_not_mem 0 (by
        have := (CodePoint.isSmallLetter_iff.1 hsmall.1).2
        omega) (CodePoint.lower_of_small (.inl hsmall.1)) hnone
      rw [List.replicate_zero, List.nil_append] at hcamel
      rw [normalize, hcamel, escape_of_isReserved h]
  · rw [normalize, hmarked, escape_cons (not_isReserved_cons (by decide) word), hdigit]
    rfl

/-- **A normal form is its own identifier.** -/
theorem normalize_of_isNormal {t : Text} (h : IsNormal t) : normalize t = t := by
  cases h with
  | reserved h => exact (normalize_of_isReserved h).2
  | blank n =>
    have hescape := escape_underscores n []
    rw [List.append_nil] at hescape
    rw [normalize, toCamelCase_underscores, hescape]
  | word n hc hrest hreserved =>
    rw [normalize, toCamelCase_of_small n (.inl hc) hrest]
    cases n with
    | zero =>
      rw [List.replicate_zero, List.nil_append] at hreserved ⊢
      have hlt := (CodePoint.isSmallLetter_iff.1 hc).2
      rw [escape_cons hreserved, CodePoint.isDigit_eq (by omega),
        CodePoint.not_isAsciiDigit_of_isSmallLetter hc]
      rfl
    | succ n => exact escape_underscores n _
  | number n hc hrest =>
    rw [normalize, toCamelCase_of_small (n + 1) (.inr hc) hrest, escape_underscores]

/-- A normal form is no reserved word. -/
theorem IsNormal.not_isReserved {t : Text} (h : IsNormal t) : ¬ IsReserved t := by
  cases h with
  | reserved h => exact not_isReserved_cons (by decide) _
  | blank n => exact not_isReserved_cons (by decide) _
  | word n hc hrest hreserved => exact hreserved
  | number n hc hrest => exact not_isReserved_cons (by decide) _

theorem all_isPlain_underscores (n : Nat) :
    (List.replicate n (95 : CodePoint)).all CodePoint.isPlain = true :=
  List.all_eq_true.2 fun c hc ↦ (List.eq_of_mem_replicate hc) ▸ by decide

/-- A normal form is a reserved word behind an at sign or made of plain letters. -/
theorem IsNormal.eq_mark_or_all_isPlain {t : Text} (h : IsNormal t) :
    (∃ word, IsReserved word ∧ t = 64 :: word) ∨ t.all CodePoint.isPlain = true := by
  have hplain : ∀ (n : Nat) {c : CodePoint} {rest : Text},
      c.isSmallLetter = true ∨ c.isAsciiDigit = true →
      rest.all CodePoint.isAlphanumeric = true →
      (List.replicate n 95 ++ c :: rest).all CodePoint.isPlain = true := by
    intro n c rest hc hrest
    rw [List.all_append, List.all_cons, all_isPlain_underscores,
      CodePoint.isPlain_of_isAlphanumeric (CodePoint.isAlphanumeric_of_small hc),
      Text.all_isPlain_of_isAlphanumeric hrest]
    rfl
  cases h with
  | reserved h => exact .inl ⟨_, h, rfl⟩
  | blank n => exact .inr (all_isPlain_underscores (n + 1))
  | word n hc hrest hreserved => exact .inr (hplain n (.inl hc) hrest)
  | number n hc hrest => exact .inr (hplain (n + 1) (.inr hc) hrest)

/-- A plain text that starts with no digit is an identifier, with an at sign in front or without. -/
theorem isToken_of_all_isPlain {mark : Text} {c : CodePoint} {rest : Text}
    (hmark : mark = [] ∨ mark = [64]) (h : (c :: rest).all CodePoint.isPlain = true)
    (hc : c.isAsciiDigit = false) : IsToken (mark ++ c :: rest) := by
  rw [List.all_cons, Bool.and_eq_true] at h
  refine ⟨mark, c, rest, rfl, hmark, ?_, h.2⟩
  have hplain := h.1
  rw [CodePoint.isPlain, hc, Bool.or_false, Bool.or_eq_true, decide_eq_true_eq] at hplain
  exact hplain

theorem IsNormal.isToken {t : Text} (h : IsNormal t) : IsToken t := by
  rcases h.eq_mark_or_all_isPlain with ⟨word, hword, rfl⟩ | hplain
  · rcases word with - | ⟨c, rest⟩
    · exact absurd hword not_isReserved_nil
    · have hc := List.all_eq_true.1 hword.all_isSmallLetter c List.mem_cons_self
      exact isToken_of_all_isPlain (.inr rfl) hword.all_isPlain
        (CodePoint.not_isAsciiDigit_of_isSmallLetter hc)
  · -- of the plain ones, two start with an underscore and one with a small letter
    have hstart : ∃ c rest, t = c :: rest ∧ (c = 95 ∨ c.isSmallLetter = true) := by
      cases h with
      | reserved h => exact absurd (List.all_eq_true.1 hplain 64 List.mem_cons_self) (by decide)
      | blank n => exact ⟨95, _, rfl, .inl rfl⟩
      | @word n c rest hc =>
        cases n with
        | zero => exact ⟨c, rest, rfl, .inr hc⟩
        | succ n => exact ⟨95, _, rfl, .inl rfl⟩
      | number n hc hrest => exact ⟨95, _, rfl, .inl rfl⟩
    obtain ⟨c, rest, rfl, hc⟩ := hstart
    refine isToken_of_all_isPlain (.inl rfl) hplain ?_
    rcases hc with rfl | hc
    · decide
    · exact CodePoint.not_isAsciiDigit_of_isSmallLetter hc

/-! ### Spelling -/

/-- A text in small letters, without its underscores and at signs. -/
def spelling (t : Text) : Text := Text.lower (t.filter fun c ↦ c ≠ 95 ∧ c ≠ 64)

theorem spelling_append (s t : Text) : spelling (s ++ t) = spelling s ++ spelling t := by
  rw [spelling, List.filter_append, Text.lower_append, spelling, spelling]

theorem spelling_underscores (n : Nat) (t : Text) :
    spelling (List.replicate n 95 ++ t) = spelling t := by
  have hnone : (List.replicate n (95 : CodePoint)).filter (fun c ↦ c ≠ 95 ∧ c ≠ 64) = [] :=
    List.filter_eq_nil_iff.2 fun c hc ↦ by simp [List.eq_of_mem_replicate hc]
  rw [spelling_append, spelling, hnone]
  rfl

/-- Escaping adds nothing that counts. -/
theorem spelling_escape (t : Text) : spelling (escape t) = spelling t := by
  by_cases hreserved : IsReserved t
  · rw [escape_of_isReserved hreserved]
    rfl
  cases t with
  | nil =>
    rw [escape_nil]
    rfl
  | cons c rest =>
    rw [escape_cons hreserved]
    split_ifs
    · exact spelling_underscores 1 (c :: rest)
    · rfl

theorem spelling_of_isAlphanumeric {t : Text} (h : t.all CodePoint.isAlphanumeric = true) :
    spelling t = Text.lower t := by
  rw [spelling, List.filter_eq_self.2]
  intro c hc
  have halphanumeric := List.all_eq_true.1 h c hc
  refine decide_eq_true ⟨(CodePoint.isAlphanumeric_iff.1 halphanumeric).2, ?_⟩
  rintro rfl
  exact absurd halphanumeric (by decide)

theorem lower_capitalized {word : Text} (h : word.all CodePoint.isPlain = true) :
    Text.lower (capitalized word) = Text.lower word := by
  cases word with
  | nil => rfl
  | cons c rest =>
    rw [List.all_cons, Bool.and_eq_true] at h
    rw [capitalized, Text.lower_append, CodePoint.lower_upper (CodePoint.lt_of_isPlain h.1)]
    rfl

theorem lower_uncapitalized {word : Text} (h : word.all CodePoint.isPlain = true) :
    Text.lower (uncapitalized word) = Text.lower word := by
  cases word with
  | nil => rfl
  | cons c rest =>
    rw [List.all_cons, Bool.and_eq_true] at h
    rw [uncapitalized, Text.lower_append, CodePoint.lower_lower (CodePoint.lt_of_isPlain h.1)]
    rfl

/-- Running words together changes case and drops underscores, and does nothing else. -/
theorem lower_runTogether {t : Text} (h : t.all CodePoint.isPlain = true) :
    Text.lower (runTogether t) = spelling t := by
  have hwords : ∀ word ∈ words t, word.all CodePoint.isPlain = true := fun word hword ↦
    List.all_eq_true.2 fun c hc ↦
      List.all_eq_true.1 h c (Text.mem_of_mem_split (List.mem_of_mem_filter hword) hc)
  have hflatten : (words t).flatten = t.filter (· ≠ 95) := by
    rw [← Text.flatten_split, words, List.flatten_filter_ne_nil]
  have hfilter : t.filter (· ≠ 95) = t.filter fun c ↦ c ≠ 95 ∧ c ≠ 64 := by
    refine List.filter_congr fun c hc ↦ ?_
    have hc64 : c ≠ 64 := by
      rintro rfl
      exact absurd (List.all_eq_true.1 h 64 hc) (by decide)
    simp [hc64]
  calc Text.lower (runTogether t)
      = (words t).flatMap fun word ↦ Text.lower (capitalized word) := List.flatMap_assoc
    _ = (words t).flatMap Text.lower := List.flatMap_congr fun word hword ↦
        lower_capitalized (hwords word hword)
    _ = Text.lower (words t).flatten := by
        rw [Text.lower, List.flatten_eq_flatMap, List.flatMap_assoc]
        rfl
    _ = spelling t := by rw [hflatten, hfilter, spelling]

/-- **An identifier is spelled like its name.** -/
theorem spelling_normalize {name : Text} (h : name.all CodePoint.isPlain = true) :
    spelling (normalize name) = spelling name := by
  obtain ⟨n, rest, rfl, hstop, hrest⟩ := exists_run_eq h
  have halphanumeric := all_isAlphanumeric_runTogether hrest
  have hplain := Text.all_isPlain_of_isAlphanumeric halphanumeric
  rw [normalize, spelling_escape,
    toCamelCase_run n hstop (stopsRun_of_isAlphanumeric halphanumeric), spelling_underscores,
    spelling_underscores, spelling_of_isAlphanumeric, lower_uncapitalized hplain,
    lower_runTogether hrest]
  exact all_isAlphanumeric_uncapitalized halphanumeric

/-- **The identifiers of plain names are exactly the normal forms.** A plain name, that is any text
of Latin letters, digits and underscores, has a normal form as its identifier, and the two are the
same but for underscores, at signs and case. A normal form is an identifier of C# and no reserved
word, and it is its own identifier; so finding the identifier twice is finding it once. And every
normal form is the identifier of some plain name. -/
theorem normal_forms_of_plain_names :
    (∀ name : Text, name.all CodePoint.isPlain = true →
      IsNormal (normalize name) ∧ normalize (normalize name) = normalize name ∧
        spelling (normalize name) = spelling name) ∧
    (∀ t : Text, IsNormal t → IsToken t ∧ ¬ IsReserved t ∧ normalize t = t) ∧
    ∀ t : Text, (∃ name : Text, name.all CodePoint.isPlain = true ∧ normalize name = t) ↔
      IsNormal t := by
  refine ⟨fun name h ↦ ⟨isNormal_normalize h, normalize_of_isNormal (isNormal_normalize h),
    spelling_normalize h⟩, fun t h ↦ ⟨h.isToken, h.not_isReserved, normalize_of_isNormal h⟩,
    fun t ↦ ⟨?_, fun h ↦ ?_⟩⟩
  · rintro ⟨name, h, rfl⟩
    exact isNormal_normalize h
  · -- only the at sign keeps a normal form from being a plain name itself
    rcases h.eq_mark_or_all_isPlain with ⟨word, hword, rfl⟩ | hplain
    · exact ⟨word, hword.all_isPlain, (normalize_of_isReserved hword).1⟩
    · exact ⟨t, hplain, normalize_of_isNormal h⟩

/-- A name with words to run together, and one that becomes a reserved word. -/
theorem normal_forms_of_samples :
    (IsNormal "__myArg2b" ∧ normalize "__myArg2b" = "__myArg2b" ∧
      spelling "__myArg2b" = spelling "__My_arg__2b_") ∧
    (IsToken "@class" ∧ ¬ IsReserved "@class" ∧ normalize "@class" = "@class") ∧
    ∃ name : Text, name.all CodePoint.isPlain = true ∧ normalize name = "@class" := by
  obtain ⟨hnames, hforms, himage⟩ := normal_forms_of_plain_names
  have hcamel : normalize "__My_arg__2b_" = "__myArg2b" := by decide +kernel
  have hclass : normalize "Class" = "@class" := by decide +kernel
  have hsample := hnames "__My_arg__2b_" (by decide +kernel)
  have hreserved := (hnames "Class" (by decide +kernel)).1
  rw [hcamel] at hsample
  rw [hclass] at hreserved
  exact ⟨hsample, hforms "@class" hreserved, (himage "@class").2 hreserved⟩

end Identifier

end SignatureBridge
