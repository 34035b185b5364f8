import SignatureBridge.Reflection.Default
import SignatureBridge.Proofs.Declaration.NumeralDigits
import SignatureBridge.Proofs.Text.Cutting

/-!
# Reading integer literals

The reading side of integer literals, by the rules of C#. A literal is a run of digits, in decimal
or behind `0x` or `0b`, with or without the suffix `L`, and possibly behind a minus sign
(`IntegerToken.ofText?`). Its type is the first one that holds the magnitude, among the four
integral types or, with the suffix, among the two long ones. The sign is an operation on that type:
the negative of an `int` is an `int`, that of a `uint` or a `long` is a `long`, and a `ulong` has
none. Two decimal literals behind a sign are exempt, the least `int` and the least `long`, whose
magnitudes do not fit the types they have (`IntegerToken.type?`).

The literals of integer defaults are checked against these rules. `ofText?_numeralLiteral` reads a
written integer back, in each base and for every magnitude; `type?_of_marked` and the lemmas on
decimal literals decide the type at the ends of the ranges.
-/

namespace SignatureBridge

/-! ### Types of literals -/

/-- The types of integer literals. -/
inductive IntegralType where
  | int
  | uint
  | long
  | ulong
  deriving DecidableEq

namespace IntegralType

/-- The greatest value of a type. -/
def greatest : IntegralType → Nat
  | int => 2147483647
  | uint => 4294967295
  | long => 9223372036854775807
  | ulong => 18446744073709551615

/-- The type of the negative of a value, if it has one. -/
def negated? : IntegralType → Option IntegralType
  | int => some int
  | uint => some long
  | long => some long
  | ulong => none

end IntegralType

/-- An integer literal with its sign: the base of its digits, the number that they denote, and
whether it has the suffix. -/
structure IntegerToken where
  negative : Bool
  base : Base
  magnitude : Nat
  suffixed : Bool
  deriving DecidableEq

namespace IntegerToken

/-- The types that are tried for the magnitude, in order. -/
def candidates (k : IntegerToken) : List IntegralType :=
  if k.suffixed then [.long, .ulong] else [.int, .uint, .long, .ulong]

/-- The type of the literal without its sign: the first that holds the magnitude. -/
def unsignedType? (k : IntegerToken) : Option IntegralType :=
  k.candidates.find? (k.magnitude ≤ ·.greatest)

/-- The type of the two decimal literals that are read together with their sign. -/
def leastType? (k : IntegerToken) : Option IntegralType :=
  if k.base = .decimal ∧ k.magnitude = 2147483648 ∧ k.suffixed = false then some .int
  else if k.base = .decimal ∧ k.magnitude = 9223372036854775808 then some .long
  else none

/-- The type of the literal with its sign. -/
def type? (k : IntegerToken) : Option IntegralType :=
  if k.negative then
    match k.leastType? with
    | some type => some type
    | none => k.unsignedType?.bind IntegralType.negated?
  else k.unsignedType?

/-- The value of the literal with its sign. -/
def value (k : IntegerToken) : Int := if k.negative then -(k.magnitude : Int) else k.magnitude

end IntegerToken

/-! ### Reading -/

namespace IntegerToken

/-- Reads digits and a suffix, which have to be the whole text. -/
def ofDigits? (negative : Bool) (base : Base) (t : Text) : Option IntegerToken :=
  let run := t.takeWhile base.isDigit
  let suffix := t.dropWhile base.isDigit
  if run = [] then none
  else if suffix = [] then some { negative, base, magnitude := base.valueOf run, suffixed := false }
  else if suffix = "L" then some { negative, base, magnitude := base.valueOf run, suffixed := true }
  else none

/-- Reads a literal without its sign. -/
def ofUnsigned? (negative : Bool) (t : Text) : Option IntegerToken :=
  match t.dropLeading? "0x", t.dropLeading? "0b" with
  | some rest, _ => ofDigits? negative .hexadecimal rest
  | none, some rest => ofDigits? negative .binary rest
  | none, none => ofDigits? negative .decimal t

/-- Reads a literal with or without a sign. -/
def ofText? (t : Text) : Option IntegerToken :=
  match t.dropLeading? "-" with
  | some rest => ofUnsigned? true rest
  | none => ofUnsigned? false t

end IntegerToken

/-! ### Reading what is written -/

/-- What is written behind the digits of a literal with or without the suffix. -/
def IntegerToken.suffix (suffixed : Bool) : Text := if suffixed then "L" else []

namespace IntegerToken

/-- Digits and suffix are told apart. -/
theorem ofDigits?_digitsOf (negative : Bool) (b : Base) (n : Nat) (suffixed : Bool) :
    ofDigits? negative b (Numeral.digitsOf b n ++ suffix suffixed) =
      some { negative, base := b, magnitude := n, suffixed } := by
  have hstop : Text.StopsRun b.isDigit (suffix suffixed) := by
    cases suffixed
    · exact Text.stopsRun_nil _
    · exact Text.stopsRun_cons (by cases b <;> decide) []
  have hdigits := Numeral.all_isDigit_digitsOf b n
  simp only [ofDigits?, Text.takeWhile_run hdigits hstop, Text.dropWhile_run hdigits hstop,
    Numeral.digitsOf_ne_nil,
    Numeral.valueOf_digitsOf, if_false]
  cases suffixed <;> rfl

/-- A code point that is neither a digit of the base nor the suffix does not occur behind the mark
of the base. -/
theorem not_mem_of_not_isDigit {b : Base} {c : CodePoint} (hc : b.isDigit c = false) (hL : c ≠ 'L')
    (n : Nat) (suffixed : Bool) :
    c ∉ Numeral.digitsOf b n ++ suffix suffixed := by
  intro hmem
  rcases List.mem_append.1 hmem with h | h
  · have hdigit := List.all_eq_true.1 (Numeral.all_isDigit_digitsOf b n) c h
    rw [hc] at hdigit
    exact absurd hdigit (by decide)
  · cases suffixed
    · exact absurd h List.not_mem_nil
    · exact hL (List.mem_singleton.1 h)

/-- The mark tells the base. -/
theorem ofUnsigned?_digitsOf (negative : Bool) (b : Base) (n : Nat) (suffixed : Bool) :
    ofUnsigned? negative (b.mark ++ (Numeral.digitsOf b n ++ suffix suffixed)) =
      some { negative, base := b, magnitude := n, suffixed } := by
  rw [ofUnsigned?]
  cases b with
  | hexadecimal =>
    rw [show Base.mark .hexadecimal = ("0x" : Text) from rfl, Text.dropLeading?_append]
    exact ofDigits?_digitsOf negative .hexadecimal n suffixed
  | binary =>
    rw [show Base.mark .binary = ("0b" : Text) from rfl, Text.dropLeading?_append]
    exact ofDigits?_digitsOf negative .binary n suffixed
  | decimal =>
    -- decimal digits hold neither mark, so the whole text is the run
    have hx := not_mem_of_not_isDigit (b := .decimal) (c := 'x') (by decide) (by decide) n suffixed
    have hb := not_mem_of_not_isDigit (b := .decimal) (c := 'b') (by decide) (by decide) n suffixed
    rw [show Base.mark .decimal = [] from rfl, List.nil_append,
      Text.dropLeading?_eq_none_of_not_mem (by decide) hx,
      Text.dropLeading?_eq_none_of_not_mem (by decide) hb]
    exact ofDigits?_digitsOf negative .decimal n suffixed

/-- **A written integer is read back**, in its base, with its magnitude, its sign and its suffix. -/
theorem ofText?_numeralLiteral (n : Int) (b : Base) (suffixed : Bool) :
    ofText? (Constant.numeralLiteral n b (suffix suffixed)).text =
      some { negative := decide (n < 0), base := b, magnitude := n.natAbs, suffixed } := by
  have htext : (Constant.numeralLiteral n b (suffix suffixed)).text =
      (if n < 0 then ("-" : Text) else []) ++
        (b.mark ++ (Numeral.digitsOf b n.natAbs ++ suffix suffixed)) := by
    simp only [Constant.numeralLiteral, Literal.integer, Literal.numeric, Numeral.text,
      List.append_assoc]
  rw [htext, ofText?]
  by_cases hn : n < 0
  · rw [if_pos hn, Text.dropLeading?_append, decide_eq_true hn]
    exact ofUnsigned?_digitsOf true b n.natAbs suffixed
  · have hminus :
        (45 : CodePoint) ∉ b.mark ++ (Numeral.digitsOf b n.natAbs ++ suffix suffixed) := by
      intro hmem
      rcases List.mem_append.1 hmem with h | h
      · exact absurd h (by cases b <;> decide)
      · exact not_mem_of_not_isDigit (by cases b <;> decide) (by decide) n.natAbs suffixed h
    rw [if_neg hn, List.nil_append, Text.dropLeading?_eq_none_of_not_mem (by decide) hminus,
      decide_eq_false hn]
    exact ofUnsigned?_digitsOf false b n.natAbs suffixed

/-! ### Types of what is written -/

/-- Without the suffix, the first type that holds a magnitude of 63 bits is a signed one or
`uint`. -/
theorem unsignedType?_of_not_suffixed {k : IntegerToken} (hs : k.suffixed = false)
    (hk : k.magnitude ≤ 9223372036854775807) :
    k.unsignedType? =
      some (if k.magnitude ≤ 2147483647 then .int
        else if k.magnitude ≤ 4294967295 then .uint else .long) := by
  by_cases hint : k.magnitude ≤ 2147483647
  · simp [unsignedType?, candidates, hs, IntegralType.greatest, hint]
  · by_cases huint : k.magnitude ≤ 4294967295
    · simp [unsignedType?, candidates, hs, IntegralType.greatest, hint, huint]
    · simp [unsignedType?, candidates, hs, IntegralType.greatest, hint, huint, hk]

/-- With the suffix, the first type that holds a magnitude of 63 bits is `long`. -/
theorem unsignedType?_of_suffixed {k : IntegerToken} (hs : k.suffixed = true)
    (hk : k.magnitude ≤ 9223372036854775807) :
    k.unsignedType? = some .long := by
  simp [unsignedType?, candidates, hs, IntegralType.greatest, hk]

/-- The type of a literal of a marked base: never `ulong`, since no magnitude has a 64th bit. -/
theorem type?_of_marked {k : IntegerToken} (hb : k.base ≠ .decimal) (hs : k.suffixed = false)
    (hk : k.magnitude ≤ 9223372036854775807) : ∃ type, k.type? = some type ∧ type ≠ .ulong := by
  have hleast : k.leastType? = none := by
    rw [leastType?, if_neg fun h ↦ hb h.1, if_neg fun h ↦ hb h.1]
  rw [type?, hleast, unsignedType?_of_not_suffixed hs hk]
  cases k.negative <;> split_ifs <;> exact ⟨_, rfl, by decide⟩

/-- A decimal literal of 32 bits is an `int`; the least one is read together with its sign. -/
theorem type?_of_decimal_int {k : IntegerToken} (hb : k.base = .decimal) (hs : k.suffixed = false)
    (hk : k.magnitude ≤ 2147483647 ∨ k.negative = true ∧ k.magnitude = 2147483648) :
    k.type? = some .int := by
  rcases hk with hk | ⟨hneg, hk⟩
  · have hleast : k.leastType? = none := by
      rw [leastType?, if_neg fun h ↦ absurd h.2.1 (by omega), if_neg fun h ↦ absurd h.2 (by omega)]
    rw [type?, hleast, unsignedType?_of_not_suffixed hs (by omega), if_pos hk]
    cases k.negative <;> rfl
  · rw [type?, if_pos hneg, leastType?, if_pos ⟨hb, hk, hs⟩]

/-- A decimal literal with the suffix is a `long`; the least one is read together with its sign. -/
theorem type?_of_decimal_long {k : IntegerToken} (hb : k.base = .decimal) (hs : k.suffixed = true)
    (hk : k.magnitude ≤ 9223372036854775807 ∨ k.negative = true ∧
      k.magnitude = 9223372036854775808) :
    k.type? = some .long := by
  have hint : ¬ (k.base = .decimal ∧ k.magnitude = 2147483648 ∧ k.suffixed = false) := by
    rintro ⟨-, -, h⟩
    rw [hs] at h
    exact absurd h (by decide)
  rcases hk with hk | ⟨hneg, hk⟩
  · have hleast : k.leastType? = none := by
      rw [leastType?, if_neg hint, if_neg fun h ↦ absurd h.2 (by omega)]
    rw [type?, hleast, unsignedType?_of_suffixed hs hk]
    cases k.negative <;> rfl
  · rw [type?, if_pos hneg, leastType?, if_neg hint, if_pos ⟨hb, hk⟩]

end IntegerToken

/-! ### Integer defaults -/

namespace Constant

/-- The three forms of integer defaults, each with the base that its source is written in. -/
def integerForms : List (ConstantForm × Base) :=
  [(.integer, .decimal), (.hexadecimal, .hexadecimal), (.binary, .binary)]

/-- What C# makes of a literal for an integer: it is a number that stands for `n`, of a type that is
not `ulong`. -/
structure ReadsAs (literal : Literal) (n : Int) (base : Base) (type : IntegralType) : Prop where
  kind : literal.kind = .numeric
  value : literal.value = .int n
  read : ∃ token, IntegerToken.ofText? literal.text = some token ∧ token.type? = some type ∧
    token.value = n ∧ token.base = base
  signed : type ≠ .ulong

theorem fitsLong_iff {n : Int} :
    fitsLong n = true ↔ -9223372036854775808 ≤ n ∧ n ≤ 9223372036854775807 := by
  simp [fitsLong]

theorem fitsInt_iff {n : Int} : fitsInt n = true ↔ -2147483648 ≤ n ∧ n ≤ 2147483647 := by
  simp [fitsInt]

theorem value_token (n : Int) (b : Base) (suffixed : Bool) :
    IntegerToken.value { negative := decide (n < 0), base := b, magnitude := n.natAbs, suffixed } =
      n := by
  simp only [IntegerToken.value, decide_eq_true_eq]
  split_ifs <;> omega

/-- The decimal literal of a 64-bit integer is an `int` where that type holds the integer, and a
`long` elsewhere. -/
theorem readsAs_decimalLiteral {n : Int} (hn : fitsLong n = true) :
    ReadsAs (decimalLiteral n) n .decimal
      (if -2147483648 ≤ n ∧ n ≤ 2147483647 then .int else .long) := by
  have hlong := fitsLong_iff.1 hn
  by_cases hint : fitsInt n = true
  · have hbounds := fitsInt_iff.1 hint
    have hliteral : decimalLiteral n = numeralLiteral n .decimal (IntegerToken.suffix false) := by
      rw [decimalLiteral, if_pos hint]
      rfl
    rw [if_pos hbounds, hliteral]
    refine ⟨rfl, rfl, ⟨_, IntegerToken.ofText?_numeralLiteral n .decimal false, ?_,
      value_token n .decimal false, rfl⟩, by decide⟩
    refine IntegerToken.type?_of_decimal_int rfl rfl ?_
    simp only [decide_eq_true_eq]
    omega
  · have hbounds : ¬ (-2147483648 ≤ n ∧ n ≤ 2147483647) := fun h ↦ hint (fitsInt_iff.2 h)
    have hliteral : decimalLiteral n = numeralLiteral n .decimal (IntegerToken.suffix true) := by
      rw [decimalLiteral, if_neg hint]
      rfl
    rw [if_neg hbounds, hliteral]
    refine ⟨rfl, rfl, ⟨_, IntegerToken.ofText?_numeralLiteral n .decimal true, ?_,
      value_token n .decimal true, rfl⟩, by decide⟩
    refine IntegerToken.type?_of_decimal_long rfl rfl ?_
    simp only [decide_eq_true_eq]
    omega

/-- The literal of a 64-bit integer in a marked base keeps the base, except for the least
integer. -/
theorem readsAs_basedLiteral {n : Int} {b : Base} (hb : b ≠ .decimal) (hn : fitsLong n = true) :
    ∃ type, ReadsAs (basedLiteral n b) n (if n = leastLong then .decimal else b) type := by
  have hlong := fitsLong_iff.1 hn
  by_cases hleast : n = leastLong
  · rw [basedLiteral, if_pos hleast, if_pos hleast]
    exact ⟨_, readsAs_decimalLiteral hn⟩
  · have hvalue : n ≠ -9223372036854775808 := hleast
    obtain ⟨type, htype, hulong⟩ := IntegerToken.type?_of_marked
      (k := ⟨decide (n < 0), b, n.natAbs, false⟩) hb rfl
      (show n.natAbs ≤ 9223372036854775807 by omega)
    rw [basedLiteral, if_neg hleast, if_neg hleast]
    exact ⟨type, rfl, rfl,
      ⟨_, IntegerToken.ofText?_numeralLiteral n b false, htype, value_token n b false, rfl⟩, hulong⟩

/-- An integer of 64 bits is taken over from a default of an integer form. -/
theorem longValue_of_fitsLong {form : ConstantForm} {n : Int} (hn : fitsLong n = true) :
    longValue { form, value := .int n } = .ok n := by
  show checkLong n = .ok n
  rw [checkLong, if_pos hn]

/-- Any other integer that can be written is refused for its size. -/
theorem longValue_of_not_fitsLong {form : ConstantForm} {n : Int} (hn : ¬ fitsLong n = true)
    (hlimit : n.natAbs < Nat.pow 10 digitLimit) :
    longValue { form, value := .int n } = .error (.outOfRange n) := by
  show checkLong n = .error (.outOfRange n)
  rw [checkLong, if_neg hn, if_pos hlimit]

/-- A default of an integer form fails as its integer does, and else becomes a literal that reads as
the integer. -/
theorem reflect_of_mem_integerForms {form : ConstantForm} {base : Base} {n : Int}
    (hform : (form, base) ∈ integerForms)
    (hn : fitsLong n = true) :
    ∃ literal type, reflect { form, value := .int n } = .ok (literal, false) ∧
      ReadsAs literal n (if n = leastLong then .decimal else base) type ∧
      (form = .integer → type = if -2147483648 ≤ n ∧ n ≤ 2147483647 then .int else .long) := by
  have hvalue : ∀ form, longValue { form, value := .int n } = .ok n :=
    fun _ ↦ longValue_of_fitsLong hn
  simp only [integerForms, List.mem_cons, List.not_mem_nil, or_false, Prod.mk.injEq] at hform
  rcases hform with ⟨rfl, rfl⟩ | ⟨rfl, rfl⟩ | ⟨rfl, rfl⟩
  · refine ⟨decimalLiteral n, _, ?_, ?_, fun _ ↦ rfl⟩
    · simp only [reflect, hvalue]
      rfl
    · rw [ite_self]
      exact readsAs_decimalLiteral hn
  · obtain ⟨type, htype⟩ := readsAs_basedLiteral (b := .hexadecimal) (by decide) hn
    refine ⟨basedLiteral n .hexadecimal, type, ?_, htype, fun h ↦ absurd h (by decide)⟩
    simp only [reflect, hvalue]
    rfl
  · obtain ⟨type, htype⟩ := readsAs_basedLiteral (b := .binary) (by decide) hn
    refine ⟨basedLiteral n .binary, type, ?_, htype, fun h ↦ absurd h (by decide)⟩
    simp only [reflect, hvalue]
    rfl

theorem reflect_of_not_fitsLong {form : ConstantForm} {base : Base} {n : Int}
    (hform : (form, base) ∈ integerForms)
    (hn : ¬ fitsLong n = true) (hlimit : n.natAbs < Nat.pow 10 digitLimit) :
    reflect { form, value := .int n } = .error (.outOfRange n) := by
  have hvalue : ∀ form, longValue { form, value := .int n } = .error (.outOfRange n) :=
    fun _ ↦ longValue_of_not_fitsLong hn hlimit
  simp only [integerForms, List.mem_cons, List.not_mem_nil, or_false, Prod.mk.injEq] at hform
  rcases hform with ⟨rfl, -⟩ | ⟨rfl, -⟩ | ⟨rfl, -⟩ <;> simp only [reflect, hvalue] <;> rfl

/-- **Integer defaults mean the same number in C#.** A default of an integer form is refused as an
overflow exactly when its integer does not fit 64 bits. Otherwise it becomes a numeric literal that
makes nothing nullable and that C# reads as a number of that value, of one of the types `int`,
`uint` and `long`. A decimal default is an `int` exactly when it fits 32 bits, and else a `long`; a
hexadecimal or binary one is written in its base, except for the least integer. -/
theorem reflect_integer {form : ConstantForm} {base : Base} {n : Int}
    (hform : (form, base) ∈ integerForms)
    (hlimit : n.natAbs < Nat.pow 10 digitLimit) :
    ((∃ cause, reflect { form, value := .int n } = .error cause ∧
          cause.category = "OverflowError") ↔
        ¬ (-9223372036854775808 ≤ n ∧ n ≤ 9223372036854775807)) ∧
      (-9223372036854775808 ≤ n ∧ n ≤ 9223372036854775807 →
        ∃ literal type, reflect { form, value := .int n } = .ok (literal, false) ∧
          ReadsAs literal n (if n = -9223372036854775808 then .decimal else base) type ∧
          (form = .integer → type = if -2147483648 ≤ n ∧ n ≤ 2147483647 then .int else .long)) := by
  refine ⟨⟨?_, ?_⟩, fun hn ↦ reflect_of_mem_integerForms hform (fitsLong_iff.2 hn)⟩
  · rintro ⟨cause, hcause, -⟩ hn
    obtain ⟨literal, -, hliteral, -⟩ := reflect_of_mem_integerForms hform (fitsLong_iff.2 hn)
    rw [hliteral] at hcause
    exact absurd hcause (by simp)
  · intro hn
    exact ⟨_, reflect_of_not_fitsLong hform (fun h ↦ hn (fitsLong_iff.1 h)) hlimit, rfl⟩

/-- The least 64-bit integer in hexadecimal: it is written in decimal, and reads as it should. -/
theorem reflect_integer_least_hexadecimal :
    (ConstantForm.hexadecimal, Base.hexadecimal) ∈ integerForms ∧
      (-9223372036854775808 : Int).natAbs < Nat.pow 10 digitLimit ∧
      ∃ literal type,
        reflect { form := .hexadecimal, value := .int (-9223372036854775808) } =
          .ok (literal, false) ∧
        ReadsAs literal (-9223372036854775808) .decimal type := by
  have hform : (ConstantForm.hexadecimal, Base.hexadecimal) ∈ integerForms := by decide
  have hlimit : (-9223372036854775808 : Int).natAbs < Nat.pow 10 digitLimit := by decide +kernel
  obtain ⟨literal, type, hliteral, hreads, -⟩ := (reflect_integer hform hlimit).2 (by decide)
  exact ⟨hform, hlimit, literal, type, hliteral, hreads⟩

end Constant

end SignatureBridge
