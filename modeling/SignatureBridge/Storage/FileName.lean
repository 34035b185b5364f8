import SignatureBridge.Storage.Path
import SignatureBridge.Text.Template

/-!
# File names for any text

`FileName.sanitize` turns a text into a name that every file system takes. What is no Latin letter,
digit, underscore, hyphen or dot is replaced; runs of the replacement shrink to one; the replacement
is taken off both ends; and a name of more than `lengthLimit` letters is cut, and trimmed at the
cut. Where nothing is left the name is `unnamed`.

The replacement may be any text. A run of it is the text with its last letter any number of times,
and what a run shrinks to is the replacement read as a template.
-/

namespace SignatureBridge.FileName

/-- The greatest length of a name before its suffix. -/
def lengthLimit : Nat := 200

/-- The name that stands for no name. -/
def unnamed : Text := "unnamed"

/-- The suffix of output files unless another is set. -/
def defaultSuffix : Text := ".params.cs"

end SignatureBridge.FileName

namespace SignatureBridge

/-- A code point that may stand in a file name. -/
def CodePoint.isSafe (c : CodePoint) : Bool :=
  c.isAsciiLetter || c.isAsciiDigit || c = 95 || c = 45 || c = 46

namespace FileName

/-- A text with each code point that is not safe replaced. -/
def replaceUnsafe (replacement name : Text) : Text :=
  name.flatMap fun c ↦ if c.isSafe then [c] else replacement

/-- A text in which every run, that is `front` followed by `last` at least once, is put into a
template. -/
def collapseRuns (front : Text) (last : CodePoint) (template : Template) (t : Text) : Text :=
  match t with
  | [] => []
  | c :: rest =>
    if (front ++ [last]).isPrefixOf (c :: rest) then
      let repeats := ((c :: rest).drop front.length).takeWhile (· = last)
      let found := front ++ repeats
      template.fill found ++ collapseRuns front last template (rest.drop (found.length - 1))
    else c :: collapseRuns front last template rest
termination_by t.length
decreasing_by all_goals simp only [List.length_cons, List.length_drop]; omega

/-- A text in which every run of a replacement has shrunk to one; a text without it is left
alone. -/
def collapse (replacement t : Text) : Except TemplateError Text :=
  if !replacement.occursIn t then .ok t
  else
    match replacement.reverse with
    | [] => .error (.flaw .nothingToRepeat [] 0)
    | last :: front =>
      (Template.parse replacement).map fun template ↦ collapseRuns front.reverse last template t

/-- The text, or the name for no name if it is empty. -/
def orUnnamed (t : Text) : Text := if t = [] then unnamed else t

/-- A text cut to the greatest length; the replacement's letters are taken off the cut. -/
def truncate (replacement t : Text) : Text :=
  if lengthLimit < t.length then Text.trimEnd replacement.contains (t.take lengthLimit) else t

/-- A name for a text that every file system takes. -/
def sanitize (name replacement : Text) : Except TemplateError Text :=
  if name = [] then .ok unnamed
  else
    (collapse replacement (replaceUnsafe replacement name)).map fun collapsed ↦
      truncate replacement (orUnnamed (collapsed.trim replacement.contains))

/-- The replacement that output files use. -/
def underscore : Text := "_"

/-- The safe name of a stem. -/
def ofStem (stem : Text) : Text :=
  match sanitize stem underscore with
  | .ok name => name
  | .error _ => unnamed

/-- The name of the output file for a stem. -/
def output (stem suffix : Text) : Text := ofStem stem ++ suffix

end FileName

end SignatureBridge
