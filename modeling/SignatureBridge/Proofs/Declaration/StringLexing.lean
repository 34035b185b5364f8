import Mathlib.Data.List.Basic
import SignatureBridge.Declaration.StringLiteral
import SignatureBridge.Proofs.Number.Digits

/-!
# Reading string literals

The reading side of string literals, by the rules of C#. A regular string literal starts and ends
with a double quote. In between a backslash starts an escape: one of eleven letters, `\u` with
exactly four or `\U` with exactly eight hexadecimal digits. A line end must not occur, and any other
code point stands for itself. `lexPoints` reads a literal at the beginning of a text as the code
points that its parts denote, and `lexString` as the 16-bit units that the string is made of.

`scan` is an automaton: its state says what may come next, and every step takes one code point. What
carries all results is `scan_escape`: from the state between two parts, the automaton reads the
written form of a code point as that code point and is between two parts again, whatever comes next.
So a digit behind `\0` or behind `\u1234` is never drawn into the escape.

Code points and units are kept apart because they answer different questions. Two texts that differ
in nothing but a pair of surrogates in place of an astral code point have the same units, and still
their literals differ (`quote_injective`).
-/

namespace SignatureBridge

/-! ### Units of 16 bits -/

/-- A unit of a C# string. -/
abbrev CodeUnit := Fin 0x10000

/-- The units of a code point: itself in the first plane, where an unpaired surrogate stands for
itself too, and a pair of surrogates beyond it. -/
def CodePoint.utf16 (c : CodePoint) : List CodeUnit :=
  if h : c.val < 0x10000 then [⟨c.val, h⟩]
  else
    [⟨0xD800 + (c.val - 0x10000) / 0x400, by omega⟩, ⟨0xDC00 + (c.val - 0x10000) % 0x400, by omega⟩]

/-- The units of a text. -/
def Text.utf16 (t : Text) : List CodeUnit := t.flatMap CodePoint.utf16

namespace StringLiteral

/-! ### The automaton -/

/-- The escapes of one letter with the code points they denote. -/
def letterEscapes : List (CodePoint × CodePoint) :=
  [(39, 39), (34, 34), (92, 92), ('0', 0), ('a', 7), ('b', 8), ('f', 12), ('n', 10), ('r', 13),
    ('t', 9), ('v', 11)]

/-- A code point that ends a line: carriage return, line feed, next line, line separator, paragraph
separator. -/
def endsLine (c : CodePoint) : Bool := c = 13 || c = 10 || c = 0x85 || c = 0x2028 || c = 0x2029

/-- What the automaton has read of the part at hand. -/
inductive ScanState where
  /-- Nothing: it is between two parts. -/
  | between
  /-- A backslash. -/
  | escaped
  /-- The start of a number escape. The next code point is a digit of it, and `after` more follow;
  `value` is the number read so far. -/
  | number (after value : Nat)

/-- A code point in front of what is read behind it. -/
def readBefore (c : CodePoint) (read : Option (Text × Text)) : Option (Text × Text) :=
  read.map fun (points, rest) ↦ (c :: points, rest)

/-- Reads up to the closing quote: the code points that the parts denote, and the text behind the
quote. -/
def scan : ScanState → Text → Option (Text × Text)
  | _, [] => none
  | .between, c :: rest =>
    if c = 34 then some ([], rest)
    else if c = 92 then scan .escaped rest
    else if endsLine c then none
    else readBefore c (scan .between rest)
  | .escaped, c :: rest =>
    if c = 'u' then scan (.number 3 0) rest
    else if c = 'U' then scan (.number 7 0) rest
    else
      match letterEscapes.lookup c with
      | some point => readBefore point (scan .between rest)
      | none => none
  | .number after value, c :: rest =>
    match c.hexValue?, after with
    | none, _ => none
    | some d, after + 1 => scan (.number after (value * 16 + d)) rest
    | some d, 0 =>
      if h : value * 16 + d < 0x110000 then readBefore ⟨value * 16 + d, h⟩ (scan .between rest)
      else none

/-- Reads the string literal at the beginning of a text: the code points that its parts denote, and
what follows it. -/
def lexPoints : Text → Option (Text × Text)
  | [] => none
  | c :: rest => if c = 34 then scan .between rest else none

/-- Reads the string literal at the beginning of a text: the units of the string, and what follows
it. -/
def lexString (t : Text) : Option (List CodeUnit × Text) :=
  (lexPoints t).map fun (points, rest) ↦ (points.utf16, rest)

/-! ### Reading number escapes -/

/-- The automaton reads a run of digits as the number that they continue, if there is such a code
point. -/
theorem scan_number {c : CodePoint} {rest : Text} :
    ∀ {ds : List Nat} {after value : Nat}, (∀ d ∈ ds, d < 16) → ds.length = after + 1 →
      ds.foldl (fun value d ↦ value * 16 + d) value = c.val →
      scan (.number after value) (ds.map digitSmall ++ rest) =
        readBefore c (scan .between rest) := by
  -- the induction is on the digits; the number read so far moves from the list into the state
  intro ds
  induction ds with
  | nil => intro after value _ hlen; simp at hlen
  | cons d ds ih =>
    intro after value hds hlen hval
    have hd : (digitSmall d).hexValue? = some d := hexValue?_digitSmall (hds d List.mem_cons_self)
    rw [List.map_cons, List.cons_append]
    cases after with
    | zero =>
      obtain rfl : ds = [] := List.eq_nil_of_length_eq_zero (by simpa using hlen)
      have hc : value * 16 + d = c.val := hval
      simp only [scan, hd, hc, c.isLt, dite_true, List.map_nil, List.nil_append]
    | succ after =>
      simp only [scan, hd]
      exact ih (fun d' hd' ↦ hds d' (List.mem_cons_of_mem d hd')) (by simpa using hlen) hval

/-- A number escape with as many digits as its letter asks for is read as the code point that it
names. -/
theorem scan_hex {c : CodePoint} {after : Nat} (h : c.val < Nat.pow 16 (after + 1)) (rest : Text) :
    scan (.number after 0) (Text.hex (after + 1) c.val ++ rest) =
      readBefore c (scan .between rest) := by
  rw [Text.hex_eq_map]
  exact scan_number (fun d hd ↦ lt_of_mem_fixedDigits (by omega) hd)
    (length_fixedDigits (by omega) (by omega) h) (ofDigits_fixedDigits 16 (after + 1) c.val)

/-! ### Reading what is written -/

/-- The letter that stands for a code point is read as that code point, and not as the start of a
number. It may stand in a literal. -/
theorem lookup_of_escapeLetter? {c letter : CodePoint} (h : escapeLetter? c = some letter) :
    letterEscapes.lookup letter = some c ∧ letter ≠ 'u' ∧ letter ≠ 'U' ∧
      needsNumber letter = false := by
  rw [escapeLetter?] at h
  split_ifs at h with hself
  · obtain rfl := Option.some.inj h
    rcases hself with rfl | rfl <;> decide
  all_goals
    subst_vars
    obtain rfl := Option.some.inj h
    decide

/-- What a literal must not hold as it is lies in the first plane. -/
theorem lt_of_needsNumber {c : CodePoint} (h : needsNumber c = true) : c.val < 0x10000 := by
  simp only [needsNumber, CodePoint.isSurrogate, Bool.or_eq_true, Bool.and_eq_true,
    decide_eq_true_eq] at h
  rcases h with (((h | h) | rfl) | rfl) | h
  · omega
  · omega
  · decide
  · decide
  · omega

/-- What a literal may hold as it is: no control character, no separator and no surrogate. -/
theorem bounds_of_not_needsNumber {c : CodePoint} (h : ¬ needsNumber c = true) :
    0x20 ≤ c.val ∧ ¬ (0x7F ≤ c.val ∧ c.val ≤ 0x9F) ∧ c.val ≠ 0x2028 ∧ c.val ≠ 0x2029 ∧
      ¬ (0xD800 ≤ c.val ∧ c.val ≤ 0xDFFF) := by
  have hval : ∀ k : CodePoint, c ≠ k → c.val ≠ k.val := fun k hk heq ↦ hk (Fin.ext heq)
  simp only [needsNumber, CodePoint.isSurrogate, Bool.or_eq_true, Bool.and_eq_true,
    decide_eq_true_eq, not_or] at h
  obtain ⟨⟨⟨⟨hlow, hdelete⟩, hline⟩, hparagraph⟩, hsurrogate⟩ := h
  exact ⟨by omega, by omega, hval _ hline, hval _ hparagraph, hsurrogate⟩

/-- What stands for itself is neither a quote nor a backslash nor the end of a line. -/
theorem scan_plain {c : CodePoint} (hletter : escapeLetter? c = none)
    (hplain : ¬ needsNumber c = true) (rest : Text) :
    scan .between (c :: rest) = readBefore c (scan .between rest) := by
  obtain ⟨hcontrol, hdelete, hline, hparagraph, -⟩ := bounds_of_not_needsNumber hplain
  have hquote : c ≠ 34 := by
    rintro rfl
    exact absurd hletter (by decide)
  have hbackslash : c ≠ 92 := by
    rintro rfl
    exact absurd hletter (by decide)
  have hends : endsLine c = false := by
    by_contra hc
    simp only [endsLine, Bool.not_eq_false, Bool.or_eq_true, decide_eq_true_eq] at hc
    rcases hc with (((rfl | rfl) | rfl) | rfl) | rfl
    · exact absurd hcontrol (by decide)
    · exact absurd hcontrol (by decide)
    · exact hdelete (by decide)
    · exact hline rfl
    · exact hparagraph rfl
  simp only [scan, hquote, hbackslash, hends, if_false, Bool.false_eq_true]

/-- **One written code point.** Between two parts, the written form of a code point is read as that
code point, whatever comes next. -/
theorem scan_escape (c : CodePoint) (rest : Text) :
    scan .between (escape c ++ rest) = readBefore c (scan .between rest) := by
  rw [escape]
  split
  · rename_i letter hletter
    obtain ⟨hlookup, hu, hU, -⟩ := lookup_of_escapeLetter? hletter
    show scan .between (92 :: letter :: rest) = _
    simp only [scan, hu, hU, hlookup, if_true, if_false]
    rfl
  · rename_i hletter
    split_ifs with hneeds hastral
    · show scan (.number 3 0) (Text.hex 4 c.val ++ rest) = _
      exact scan_hex (lt_of_needsNumber hneeds) rest
    · show scan (.number 7 0) (Text.hex 8 c.val ++ rest) = _
      exact scan_hex (Nat.lt_of_lt_of_le c.isLt (by decide)) rest
    · exact scan_plain hletter hneeds rest

/-- A written text is read as that text, up to the closing quote. -/
theorem scan_flatMap_escape (t rest : Text) :
    scan .between (t.flatMap escape ++ 34 :: rest) = some (t, rest) := by
  induction t with
  | nil => rfl
  | cons c t ih => rw [List.flatMap_cons, List.append_assoc, scan_escape, ih]; rfl

/-- **Reading undoes writing**, and ends where the literal ends. -/
theorem lexPoints_quote_append (t rest : Text) : lexPoints (quote t ++ rest) = some (t, rest) := by
  have h : quote t ++ rest = 34 :: (t.flatMap escape ++ 34 :: rest) := by
    simp [quote]
  rw [h]
  exact scan_flatMap_escape t rest

/-- A literal and what follows it are told apart. -/
theorem quote_append_inj {s t u v : Text} (h : quote s ++ u = quote t ++ v) : s = t ∧ u = v := by
  have hread := lexPoints_quote_append s u
  rw [h, lexPoints_quote_append] at hread
  obtain ⟨hpoints, hrest⟩ := Prod.mk.inj (Option.some.inj hread)
  exact ⟨hpoints.symm, hrest.symm⟩

/-- A literal determines its text. -/
theorem quote_injective {s t : Text} (h : quote s = quote t) : s = t :=
  (quote_append_inj (u := []) (v := []) (by rw [h])).1

/-! ### What a literal is made of -/

theorem not_needsNumber_of_mem_hex {width n : Nat} {x : CodePoint} (hx : x ∈ Text.hex width n) :
    needsNumber x = false := by
  have hdigits : ∀ d < 16, needsNumber (digitSmall d) = false := by decide
  rw [Text.hex_eq_map] at hx
  obtain ⟨d, hd, rfl⟩ := List.mem_map.1 hx
  exact hdigits d (lt_of_mem_fixedDigits (by omega) hd)

/-- Nothing in a written code point must be written by its number. -/
theorem not_needsNumber_of_mem_escape {c x : CodePoint} (hx : x ∈ escape c) :
    needsNumber x = false := by
  rw [escape] at hx
  split at hx
  · rename_i letter hletter
    obtain ⟨-, -, -, hsafe⟩ := lookup_of_escapeLetter? hletter
    rcases List.mem_cons.1 hx with rfl | hx
    · decide
    · rw [List.mem_singleton.1 hx]
      exact hsafe
  · have hmark : ∀ {mark : Text}, mark.all (!needsNumber ·) = true → x ∈ mark →
        needsNumber x = false := by
      intro mark hall hmem
      simpa using List.all_eq_true.1 hall x hmem
    split_ifs at hx with hneeds hastral
    · rcases List.mem_append.1 hx with hx | hx
      · exact hmark (by decide) hx
      · exact not_needsNumber_of_mem_hex hx
    · rcases List.mem_append.1 hx with hx | hx
      · exact hmark (by decide) hx
      · exact not_needsNumber_of_mem_hex hx
    · rw [List.mem_singleton.1 hx]
      exact Bool.eq_false_iff.2 hneeds

/-- Nothing in a literal must be written by its number. -/
theorem not_needsNumber_of_mem_quote {t : Text} {x : CodePoint} (hx : x ∈ quote t) :
    needsNumber x = false := by
  have hquote : needsNumber 34 = false := by decide
  simp only [quote, List.cons_append, List.mem_cons, List.mem_append, List.mem_flatMap,
    List.not_mem_nil, or_false] at hx
  rcases hx with rfl | ⟨c, -, hx⟩ | rfl
  · exact hquote
  · exact not_needsNumber_of_mem_escape hx
  · exact hquote

/-- **A literal stands for its text.** In front of any text, the literal of a text is read as the
units of that text, and reading stops exactly behind it. The literal holds no control character, no
line or paragraph separator and no surrogate, and it determines the text. -/
theorem lexString_quote_append (t rest : Text) :
    lexString (quote t ++ rest) = some (t.utf16, rest) ∧
      (∀ x ∈ quote t, 0x20 ≤ x.val ∧ ¬ (0x7F ≤ x.val ∧ x.val ≤ 0x9F) ∧
        x.val ≠ 0x2028 ∧ x.val ≠ 0x2029 ∧
        ¬ (0xD800 ≤ x.val ∧ x.val ≤ 0xDFFF)) ∧
      ∀ s, quote s = quote t → s = t := by
  refine ⟨?_, ?_, fun s h ↦ quote_injective h⟩
  · rw [lexString, lexPoints_quote_append]
    rfl
  · intro x hx
    have hsafe : ¬ needsNumber x = true := by
      rw [not_needsNumber_of_mem_quote hx]
      decide
    exact bounds_of_not_needsNumber hsafe

/-- A digit behind a null, a lone surrogate, an astral code point and a trailing backslash, in front
of a digit and a quote. -/
example :
    lexString (quote [0, 49, 0xD800, 0x1F600, 92] ++ [48, 34]) =
      some ([0, 49, 0xD800, 0xD83D, 0xDE00, 92], [48, 34]) := by
  cbv

end StringLiteral

end SignatureBridge
