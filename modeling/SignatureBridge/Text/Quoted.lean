import SignatureBridge.Text.Printable
import SignatureBridge.Number.Radix

/-!
# Quoted text in messages

A message shows a text that it quotes between apostrophes, or between double quotes when the text
holds an apostrophe and no double quote. Inside, the backslash and the delimiter are escaped, the
tab, line feed and carriage return have their letter escapes, and what cannot be printed is written
by its number: two, four or eight hexadecimal digits, as few as it needs.
-/

namespace SignatureBridge.Text

/-- The number escape of a code point. -/
def numberEscape (c : CodePoint) : Text :=
  if c.val ≤ 0xFF then "\\x" ++ hex 2 c.val
  else if c.val ≤ 0xFFFF then "\\u" ++ hex 4 c.val
  else "\\U" ++ hex 8 c.val

/-- One code point inside a quoted text. -/
def quotedPoint (delimiter c : CodePoint) : Text :=
  if c = delimiter ∨ c = 92 then [92, c]
  else if c = 9 then "\\t"
  else if c = 10 then "\\n"
  else if c = 13 then "\\r"
  else if c.val < 0x20 ∨ c.val = 0x7F then numberEscape c
  else if c.val < 0x7F ∨ c.isPrintable then [c]
  else numberEscape c

/-- The delimiter of a quoted text. -/
def delimiter (t : Text) : CodePoint := if t.contains 39 && !t.contains 34 then 34 else 39

/-- The quoted form that messages show. -/
def quoted (t : Text) : Text :=
  let d := t.delimiter
  d :: t.flatMap (quotedPoint d) ++ [d]

/-- A text for a stream that cannot refuse it: surrogates are written by their number. -/
def withoutSurrogates (t : Text) : Text :=
  t.flatMap fun c ↦ if c.isSurrogate then numberEscape c else [c]

end SignatureBridge.Text
