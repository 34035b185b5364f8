import Mathlib.Data.List.TakeWhile
import SignatureBridge.Proofs.Reflection.Decoding
import SignatureBridge.Text.Utf8

/-!
# Surrogates in the output

A text has a UTF-8 form exactly if it holds no surrogate (`Utf8.exists_encode_eq_ok_iff`). A
signature file may spell surrogates in any text. In a default they are escaped, and the names in an
annotation never reach the output. In the name of a function or of a parameter they are carried
through: changing the case of letters and cutting a name into words neither adds a surrogate nor
takes one away (`Identifier.hasSurrogate_normalize`). So the line of a function has a UTF-8 form
exactly if none of these names holds a surrogate (`Signature.hasSurrogate_of_reflect`).
-/

namespace SignatureBridge

namespace Utf8

theorem surrogates?_eq_none_iff {t : Text} : surrogates? t = none ↔ t.hasSurrogate = false := by
  have hdrop : t.dropWhile (!·.isSurrogate) = [] ↔ t.hasSurrogate = false := by
    rw [List.dropWhile_eq_nil_iff, Text.hasSurrogate, List.any_eq_false]
    simp
  rw [← hdrop, surrogates?]
  generalize List.dropWhile (fun c : CodePoint ↦ !c.isSurrogate) t = dropped
  cases dropped <;> simp

/-- The UTF-8 form is put together code point by code point. -/
theorem encode_eq_ok {t : Text} (h : t.hasSurrogate = false) :
    encode t = .ok (t.flatMap encodePoint) := by
  rw [encode, surrogates?_eq_none_iff.2 h]

/-- A text has a UTF-8 form exactly if it holds no surrogate. -/
theorem exists_encode_eq_ok_iff {t : Text} :
    (∃ bytes, encode t = .ok bytes) ↔ t.hasSurrogate = false := by
  refine ⟨fun ⟨bytes, h⟩ ↦ surrogates?_eq_none_iff.1 ?_, fun h ↦ ⟨_, encode_eq_ok h⟩⟩
  rw [encode] at h
  rcases hcause : surrogates? t with - | cause
  · rfl
  · rw [hcause] at h
    exact absurd h (by simp)

end Utf8

/-! ### Case -/

namespace CaseRun

/-- Neither the code points of the run nor what they are moved to are surrogates. -/
def staysClear (r : CaseRun) : Bool :=
  let last := r.first + r.step * (r.count - 1)
  (last < 0xD800 || 0xDFFF < r.first) && 0 ≤ r.first + r.shift && last + r.shift < 0x110000 &&
    (last + r.shift < 0xD800 || 0xDFFF < r.first + r.shift)

theorem isSurrogate_of_holds {r : CaseRun} (hr : r.staysClear = true) {c : CodePoint}
    (hc : r.holds c = true) : c.isSurrogate = false ∧ (r.move c).isSurrogate = false := by
  simp only [staysClear, Bool.and_eq_true, Bool.or_eq_true, decide_eq_true_eq] at hr
  simp only [holds, Bool.and_eq_true, decide_eq_true_eq] at hc
  have hmove : (r.move c).val = (c.val + r.shift).toNat := by
    show (c.val + r.shift).toNat % 0x110000 = _
    omega
  simp only [CodePoint.isSurrogate, hmove, Bool.and_eq_false_iff, decide_eq_false_iff_not]
  omega

end CaseRun

namespace CodePoint

/-- A case mapping that stays clear of the surrogates neither adds one nor takes one away. -/
theorem hasSurrogate_mapCase {expansions : List (Nat × Text)} {runs : List CaseRun}
    (hexpansions : ∀ e ∈ expansions, (e.1 < 0xD800 ∨ 0xDFFF < e.1) ∧ e.2.hasSurrogate = false)
    (hruns : ∀ r ∈ runs, r.staysClear = true) (c : CodePoint) :
    Text.hasSurrogate (mapCase expansions runs c) = c.isSurrogate := by
  rw [mapCase]
  split
  · rename_i t hlookup
    obtain ⟨hclear, ht⟩ := hexpansions (c.val, t) (mem_of_lookup_eq_some hlookup)
    rw [ht, isSurrogate, eq_comm, Bool.and_eq_false_iff, decide_eq_false_iff_not,
      decide_eq_false_iff_not]
    omega
  · split
    · rename_i r hfind
      obtain ⟨hc, hmove⟩ :=
        CaseRun.isSurrogate_of_holds (hruns r (List.mem_of_find?_eq_some hfind))
          (c := c) (by simpa using List.find?_some hfind)
      rw [hc, Text.hasSurrogate, List.any_cons, hmove]
      rfl
    · rw [Text.hasSurrogate, List.any_cons, List.any_nil, Bool.or_false]

theorem hasSurrogate_upper (c : CodePoint) : Text.hasSurrogate c.upper = c.isSurrogate :=
  hasSurrogate_mapCase (by decide +kernel) (by decide +kernel) c

theorem hasSurrogate_lower (c : CodePoint) : Text.hasSurrogate c.lower = c.isSurrogate :=
  hasSurrogate_mapCase (by decide +kernel) (by decide +kernel) c

end CodePoint

/-! ### Texts put together -/

namespace Text

@[simp] theorem hasSurrogate_nil : hasSurrogate [] = false := rfl

@[simp] theorem hasSurrogate_cons (c : CodePoint) (t : Text) :
    hasSurrogate (c :: t) = (c.isSurrogate || hasSurrogate t) :=
  List.any_cons

theorem hasSurrogate_lineFeed : hasSurrogate [10] = false := by decide

@[simp] theorem hasSurrogate_append (s t : Text) :
    hasSurrogate (s ++ t) = (hasSurrogate s || hasSurrogate t) :=
  List.any_append

@[simp] theorem hasSurrogate_flatMap {α : Type} (f : α → Text) (xs : List α) :
    hasSurrogate (xs.flatMap f) = xs.any fun x ↦ hasSurrogate (f x) :=
  List.any_flatMap

theorem hasSurrogate_join {sep : Text} (hsep : hasSurrogate sep = false) (pieces : List Text) :
    hasSurrogate (join sep pieces) = pieces.any hasSurrogate := by
  cases pieces with
  | nil => rfl
  | cons piece pieces => simp [join_cons, hsep, List.any_cons]

/-- Cutting a text at something that is no surrogate leaves all of them in the pieces. -/
theorem any_hasSurrogate_split (sep : CodePoint) (hsep : sep.isSurrogate = false) (t : Text) :
    (split sep t).any hasSurrogate = hasSurrogate t := by
  conv_rhs => rw [← join_split sep t]
  rw [hasSurrogate_join (by simp [hsep])]

/-- A text whose letters are in a range below the surrogates holds none. -/
theorem hasSurrogate_eq_false {t : Text} (h : ∀ c ∈ t, c.val < 0xD800) :
    t.hasSurrogate = false := by
  rw [hasSurrogate, List.any_eq_false]
  intro c hc
  have := h c hc
  simp only [CodePoint.isSurrogate, Bool.and_eq_true, decide_eq_true_eq, not_and]
  omega

/-- A character is no surrogate. -/
@[simp] theorem hasSurrogate_ofString (s : String) : (ofString s).hasSurrogate = false := by
  rw [hasSurrogate, ofString, List.any_map, List.any_eq_false]
  intro c _
  have hval : (CodePoint.ofChar c).val = c.val.toNat := by simp [CodePoint.ofChar]
  have hvalid := c.valid
  simp only [UInt32.isValidChar, Nat.isValidChar] at hvalid
  simp only [Function.comp, CodePoint.isSurrogate, hval, Bool.and_eq_true, decide_eq_true_eq,
    not_and]
  omega

theorem hasSurrogate_ofNat (n : Nat) : (ofNat n).hasSurrogate = false := by
  have hdigits : ∀ d < 10, (digitSmall d).val < 0xD800 := by decide
  refine hasSurrogate_eq_false fun c hc ↦ ?_
  obtain ⟨d, hd, rfl⟩ := List.mem_map.1 hc
  exact hdigits d (lt_of_mem_digits (by omega) hd)

theorem hasSurrogate_replicate (n : Nat) {c : CodePoint} (hc : c.isSurrogate = false) :
    hasSurrogate (List.replicate n c) = false := by
  rw [hasSurrogate, List.any_eq_false]
  intro d hd
  rw [List.eq_of_mem_replicate hd, hc]
  exact Bool.false_ne_true

theorem hasSurrogate_padZeros (width : Nat) (t : Text) :
    (padZeros width t).hasSurrogate = t.hasSurrogate := by
  rw [padZeros, hasSurrogate_append, zeros, hasSurrogate_replicate _ (by decide), Bool.false_or]

end Text

/-! ### Identifiers -/

namespace Identifier

open Text

theorem hasSurrogate_capitalized (word : Text) :
    (capitalized word).hasSurrogate = word.hasSurrogate := by
  cases word with
  | nil => rfl
  | cons c rest =>
    rw [capitalized, hasSurrogate_append, CodePoint.hasSurrogate_upper, hasSurrogate_cons]

theorem hasSurrogate_uncapitalized (word : Text) :
    (uncapitalized word).hasSurrogate = word.hasSurrogate := by
  cases word with
  | nil => rfl
  | cons c rest =>
    rw [uncapitalized, hasSurrogate_append, CodePoint.hasSurrogate_lower, hasSurrogate_cons]

/-- The underscores in front can be cut off. -/
theorem hasSurrogate_cut (name : Text) :
    (leadingUnderscores name).hasSurrogate = false ∧
      (withoutUnderscores name).hasSurrogate = name.hasSurrogate := by
  have hleading : (leadingUnderscores name).hasSurrogate = false := by
    refine hasSurrogate_eq_false fun c hc ↦ ?_
    have hc : c = 95 := by simpa using List.mem_takeWhile_imp hc
    rw [hc]
    decide
  refine ⟨hleading, ?_⟩
  conv_rhs => rw [← List.takeWhile_append_dropWhile (p := (· = 95)) (l := name)]
  rw [hasSurrogate_append]
  show _ = ((leadingUnderscores name).hasSurrogate || (withoutUnderscores name).hasSurrogate)
  rw [hleading, Bool.false_or]

theorem hasSurrogate_words (name : Text) : (words name).any hasSurrogate = name.hasSurrogate := by
  rw [words, ← any_hasSurrogate_split 95 (by decide) name, List.any_filter]
  congr 1
  funext word
  cases word <;> simp

theorem hasSurrogate_toPascalCase (name : Text) :
    (toPascalCase name).hasSurrogate = name.hasSurrogate := by
  obtain ⟨hleading, hrest⟩ := hasSurrogate_cut name
  rw [toPascalCase, hasSurrogate_append, hleading, Bool.false_or, hasSurrogate_flatMap]
  simp only [hasSurrogate_capitalized]
  rw [show (fun word : Text ↦ word.hasSurrogate) = hasSurrogate from rfl, hasSurrogate_words, hrest]

/-- **The identifier of a name holds a surrogate exactly if the name does.** -/
theorem hasSurrogate_normalize (name : Text) :
    (normalize name).hasSurrogate = name.hasSurrogate := by
  have hcamel : (toCamelCase name).hasSurrogate = name.hasSurrogate := by
    obtain ⟨hleading, hrest⟩ := hasSurrogate_cut (toPascalCase name)
    rw [toCamelCase, hasSurrogate_append, hleading, Bool.false_or, hasSurrogate_uncapitalized,
      hrest, hasSurrogate_toPascalCase]
  rw [← hcamel, normalize, escape.eq_def]
  have h64 : CodePoint.isSurrogate 64 = false := by decide
  have h95 : CodePoint.isSurrogate 95 = false := by decide
  split_ifs
  · rw [hasSurrogate_cons, h64, Bool.false_or]
  · split
    · rename_i hnil
      rw [hnil]
      decide
    · split_ifs
      · rw [hasSurrogate_cons, h95, Bool.false_or]
      · rfl

end Identifier

/-! ### Lines -/

/-- A literal never holds a surrogate: in a string literal it is escaped. -/
theorem Literal.IsSpelled.hasSurrogate {literal : Literal} (h : literal.IsSpelled) :
    literal.text.hasSurrogate = false := by
  rw [Text.hasSurrogate, List.any_eq_false]
  intro c hc
  rcases h with ⟨t, ht⟩ | hword
  · rw [ht] at hc
    have hclear := StringLiteral.not_needsNumber_of_mem_quote hc
    simp only [StringLiteral.needsNumber, Bool.or_eq_false_iff] at hclear
    simp [hclear.2]
  · have hletter := List.all_eq_true.1 hword c hc
    simp only [CodePoint.isWordLetter, CodePoint.isAsciiLetter, CodePoint.isAsciiDigit,
      Bool.or_eq_true, Bool.and_eq_true, decide_eq_true_eq, Fin.ext_iff] at hletter
    simp only [CodePoint.isSurrogate, Bool.and_eq_true, decide_eq_true_eq]
    have h46 : (46 : CodePoint).val = 46 := rfl
    have h43 : (43 : CodePoint).val = 43 := rfl
    have h45 : (45 : CodePoint).val = 45 := rfl
    omega

/-- Of a declaration only the name of its parameter can put a surrogate into the output. -/
theorem Declaration.hasSurrogate_render {p : Parameter} {d : Declaration} (h : p.Declares d) :
    d.render.hasSurrogate = p.name.hasSurrogate := by
  have htype : d.type.render.hasSurrogate = false :=
    Text.hasSurrogate_eq_false fun c hc ↦ by
      have := (Declaration.inGrammar_of_declares h).bounds_of_mem_render hc
      omega
  have hdefault : d.defaultText.hasSurrogate = false := by
    rw [defaultText]
    rcases hd : d.default with - | literal
    · rfl
    · have := (isSpelled_of_declares h hd).hasSurrogate
      simp only [Text.hasSurrogate_append, this]
      decide
  have hrender := render_append d []
  rw [List.append_nil, List.append_nil] at hrender
  have hblank : CodePoint.isSurrogate 32 = false := by decide
  rw [hrender]
  simp only [Text.hasSurrogate_append, Text.hasSurrogate_cons, htype, hdefault, hblank,
    h.identifier, Identifier.hasSurrogate_normalize, Bool.false_or, Bool.or_false]

namespace Signature

/-- The name of the function or of a parameter holds a surrogate. The bare slash has no name of its
own. -/
def hasSurrogate (s : Signature) : Bool :=
  s.name.hasSurrogate || s.parameters.any fun p ↦ !p.isSlash && p.name.hasSurrogate

/-- **The line of a function holds a surrogate exactly if one of its names does.** -/
theorem hasSurrogate_of_reflect {s : Signature} {line : Text} (h : s.reflect = .ok line) :
    line.hasSurrogate = s.hasSurrogate := by
  have hlist : ∀ {ps : List Parameter} {ds : ParameterList}, Parameter.declarations ps = .ok ds →
      (ds.map Declaration.render).any Text.hasSurrogate =
        ps.any fun p ↦ !p.isSlash && p.name.hasSurrogate := by
    intro ps
    induction ps with
    | nil =>
      intro ds hds
      obtain rfl := Except.ok.inj hds
      rfl
    | cons p ps ih =>
      intro ds hds
      rw [List.any_cons]
      rcases Parameter.declarations_cons_eq_ok hds with
        ⟨hslash, hps⟩ | ⟨d, rest, hslash, hdeclares, hps, rfl⟩
      · rw [ih hps, hslash]
        rfl
      · rw [List.map_cons, List.any_cons, ih hps, hslash,
          Declaration.hasSurrogate_render hdeclares]
        rfl
  obtain ⟨ds, hds, rfl⟩ := exists_declarations_of_reflect h
  have hopen : CodePoint.isSurrogate 40 = false := by decide
  have hclose : CodePoint.isSurrogate 41 = false := by decide
  simp only [Text.hasSurrogate_append, Text.hasSurrogate_cons, Text.hasSurrogate_nil, hopen, hclose,
    Bool.false_or, Bool.or_false, hasSurrogate]
  rw [Text.hasSurrogate_join (by decide), hlist hds]

end Signature

end SignatureBridge
