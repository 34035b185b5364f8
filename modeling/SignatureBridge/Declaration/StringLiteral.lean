import SignatureBridge.Number.Radix

/-!
# C# string literals

`quote` writes a text as a regular string literal. Ten letters have an escape of their own; the
other control characters, the line and paragraph separators and unpaired surrogates are written with
four hexadecimal digits; what lies beyond the first plane is written with eight, since a C# string
is made of 16-bit units; all else stands for itself. So a literal holds neither a control character
nor a surrogate and never ends a line.
-/

namespace SignatureBridge.StringLiteral

/-- The letter of an escape that consists of a backslash and a letter. -/
def escapeLetter? (c : CodePoint) : Option CodePoint :=
  if c = 92 ∨ c = 34 then some c
  else if c = 0 then some '0'
  else if c = 7 then some 'a'
  else if c = 8 then some 'b'
  else if c = 12 then some 'f'
  else if c = 10 then some 'n'
  else if c = 13 then some 'r'
  else if c = 9 then some 't'
  else if c = 11 then some 'v'
  else none

/-- A code point of the first plane that must not stand in a literal as it is. -/
def needsNumber (c : CodePoint) : Bool :=
  c.val < 0x20 || (0x7F ≤ c.val && c.val < 0xA0) || c = 0x2028 || c = 0x2029 || c.isSurrogate

/-- One code point inside a literal. -/
def escape (c : CodePoint) : Text :=
  match escapeLetter? c with
  | some letter => [92, letter]
  | none =>
    if needsNumber c then "\\u" ++ Text.hex 4 c.val
    else if 0xFFFF < c.val then "\\U" ++ Text.hex 8 c.val
    else [c]

/-- The string literal of a text. -/
def quote (t : Text) : Text := 34 :: t.flatMap escape ++ [34]

end SignatureBridge.StringLiteral
