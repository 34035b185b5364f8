/-!
# Text as code points

A text is a list of Unicode code points. Surrogates are allowed: a signature file may spell an
unpaired surrogate in a name or in a default, and the tool carries it through to the output, where
it is either escaped or refused. `String`, whose characters are scalar values, cannot hold one, so
the library works on `Text` and converts from `String` only for its own fixed wording
(`Text.ofString`, inserted as a coercion).

The operations here are the few that the rest of the library needs: trimming, cutting at a
separator, joining, and the ASCII classes. `split` and `join` undo each other (`join_split`), which
is what lets a later module cut a path or a name into pieces without losing any of it.
-/

namespace SignatureBridge

/-- A Unicode code point, surrogates included. -/
abbrev CodePoint := Fin 0x110000

/-- Every numeral denotes a code point. -/
instance CodePoint.count_neZero : @NeZero Nat Zero.ofOfNat0 0x110000 := ⟨Nat.succ_ne_zero _⟩

/-- A text is a list of code points. -/
abbrev Text := List CodePoint

namespace CodePoint

/-- The code point of a character. -/
def ofChar (c : Char) : CodePoint :=
  ⟨c.toNat, by
    rcases c.valid with h | h
    · have : c.val.toNat < 0xd800 := h
      simp only [Char.toNat]
      omega
    · have : c.val.toNat < 0x110000 := h.2
      simp only [Char.toNat]
      omega⟩

instance : Coe Char CodePoint := ⟨ofChar⟩

/-- The first half of a surrogate pair. -/
def isHighSurrogate (c : CodePoint) : Bool := 0xD800 ≤ c.val && c.val ≤ 0xDBFF

/-- The second half of a surrogate pair. -/
def isLowSurrogate (c : CodePoint) : Bool := 0xDC00 ≤ c.val && c.val ≤ 0xDFFF

/-- A surrogate, which no encoding form of Unicode admits on its own. -/
def isSurrogate (c : CodePoint) : Bool := 0xD800 ≤ c.val && c.val ≤ 0xDFFF

/-- The code point that a high and a low surrogate stand for together. -/
def ofSurrogates (high low : CodePoint) : CodePoint :=
  Fin.ofNat _ (0x10000 + (high.val - 0xD800) * 0x400 + (low.val - 0xDC00))

/-- One of the digits `0` to `9`. -/
def isAsciiDigit (c : CodePoint) : Bool := 48 ≤ c.val && c.val ≤ 57

/-- A Latin letter without marks. -/
def isAsciiLetter (c : CodePoint) : Bool :=
  (65 ≤ c.val && c.val ≤ 90) || (97 ≤ c.val && c.val ≤ 122)

/-- The value of a hexadecimal digit in either case. -/
def hexValue? (c : CodePoint) : Option Nat :=
  if 48 ≤ c.val && c.val ≤ 57 then some (c.val - 48)
  else if 65 ≤ c.val && c.val ≤ 70 then some (c.val - 55)
  else if 97 ≤ c.val && c.val ≤ 102 then some (c.val - 87)
  else none

end CodePoint

namespace Text

/-- The code points of a string. -/
def ofString (s : String) : Text := s.toList.map CodePoint.ofChar

instance : Coe String Text := ⟨ofString⟩

/-- The word for a truth value in messages. -/
def ofBool (b : Bool) : Text := if b then "True" else "False"

/-- The string of a text; a surrogate becomes the replacement character. -/
def toString (t : Text) : String :=
  String.ofList (t.map fun c ↦ if c.isSurrogate then '\ufffd' else Char.ofNat c.val)

/-- Some code point of the text is a surrogate, so the text has no UTF-8 form. -/
def hasSurrogate (t : Text) : Bool := t.any CodePoint.isSurrogate

/-! ### Trimming -/

/-- Drops the code points of a class from the front. -/
def trimStart (p : CodePoint → Bool) (t : Text) : Text := t.dropWhile p

/-- Drops the code points of a class from the end. -/
def trimEnd (p : CodePoint → Bool) (t : Text) : Text := (t.reverse.dropWhile p).reverse

/-- Drops the code points of a class from both ends. -/
def trim (p : CodePoint → Bool) (t : Text) : Text := trimEnd p (trimStart p t)

/-! ### Cutting and joining -/

/-- The pieces between the occurrences of a separator; always at least one. -/
def split (sep : CodePoint) : Text → List Text
  | [] => [[]]
  | c :: rest =>
    if c = sep then [] :: split sep rest
    else
      match split sep rest with
      | [] => [[c]]
      | piece :: pieces => (c :: piece) :: pieces

/-- The pieces with a text between every two of them. -/
def join (sep : Text) : List Text → Text
  | [] => []
  | [piece] => piece
  | piece :: pieces => piece ++ sep ++ join sep pieces

/-- Each piece followed by a line feed. -/
def lines (pieces : List Text) : Text := pieces.flatMap fun piece ↦ piece ++ [10]

/-- What is left of a text after a given beginning, if the text has it. -/
def dropLeading? : (t lead : Text) → Option Text
  | t, [] => some t
  | [], _ :: _ => none
  | c :: t, l :: lead => if l = c then dropLeading? t lead else none

/-- The text before and after the first occurrence of a code point. -/
def cutAt? (sep : CodePoint) (t : Text) : Option (Text × Text) :=
  match t.dropWhile (· ≠ sep) with
  | [] => none
  | _ :: after => some (t.takeWhile (· ≠ sep), after)

/-- Whether a text occurs somewhere in another. -/
def occursIn (needle : Text) : Text → Bool
  | [] => needle.isEmpty
  | c :: rest => needle.isPrefixOf (c :: rest) || occursIn needle rest

/-- Texts in the order of their code points, a shorter one before its extensions. -/
def precedes : Text → Text → Bool
  | [], _ => true
  | _ :: _, [] => false
  | a :: s, b :: t => if a = b then precedes s t else a.val < b.val

theorem split_ne_nil (sep : CodePoint) (t : Text) : split sep t ≠ [] := by
  cases t with
  | nil => simp [split]
  | cons c rest =>
    simp only [split]
    split
    · simp
    · split <;> simp

/-- Joining the pieces again gives the text back. -/
theorem join_split (sep : CodePoint) (t : Text) : join [sep] (split sep t) = t := by
  induction t with
  | nil => rfl
  | cons c rest ih =>
    simp only [split]
    split
    · rename_i h
      subst h
      cases hs : split c rest with
      | nil => exact absurd hs (split_ne_nil c rest)
      | cons piece pieces => rw [hs] at ih; simp [join, ih]
    · cases hs : split sep rest with
      | nil => exact absurd hs (split_ne_nil sep rest)
      | cons piece pieces =>
        rw [hs] at ih
        cases pieces with
        | nil => simp_all [join]
        | cons next more => simp only [join, List.cons_append] at ih ⊢; rw [ih]

end Text

end SignatureBridge
