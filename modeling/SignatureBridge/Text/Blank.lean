import SignatureBridge.Text.Basic

/-!
# Blank code points

The blanks are the code points that separate words in Unicode text: the space separators, the line
and paragraph separators, and the control characters that serve as tabs, line ends or information
separators. `trimBlanks` takes them off both ends of a text; names given on the command line are
cleaned that way.

A number is read with a narrower set (`isNumberBlank`): the information separators `U+001C` to
`U+001F` are no blanks there.
-/

namespace SignatureBridge

namespace CodePoint

/-- Membership in a list of closed ranges. -/
def inRanges (ranges : List (Nat × Nat)) (c : CodePoint) : Bool :=
  ranges.any fun r ↦ r.1 ≤ c.val && c.val ≤ r.2

/-- The closed ranges of blank code points. -/
def blankRanges : List (Nat × Nat) := [
  (9, 13), (28, 32), (133, 133), (160, 160), (5760, 5760), (8192, 8202), (8232, 8233), (8239, 8239),
  (8287, 8287), (12288, 12288)]

/-- A blank code point. -/
def isBlank (c : CodePoint) : Bool := inRanges blankRanges c

/-- A blank that may stand around a number. -/
def isNumberBlank (c : CodePoint) : Bool := isBlank c && !(28 ≤ c.val && c.val ≤ 31)

end CodePoint

/-- The text without the blanks at its ends. -/
def Text.trimBlanks (t : Text) : Text := t.trim CodePoint.isBlank

end SignatureBridge
