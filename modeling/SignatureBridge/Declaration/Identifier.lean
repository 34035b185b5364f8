import SignatureBridge.Text.Digit
import SignatureBridge.Text.LetterCase

/-!
# C# identifiers from Python names

A Python name in snake case becomes a C# name in lower camel case. Leading underscores are kept;
after them the words between underscores are run together, each but the first with a capital, the
first with a small letter. A reserved word then gets an `@`, and a name that is empty or starts with
a digit gets an underscore in front (`normalize`).
-/

namespace SignatureBridge.Identifier

/-- The reserved words of C#. Words that are reserved only in some places are good identifiers. -/
def keywords : List Text := ([
  "abstract", "as", "base", "bool", "break", "byte", "case", "catch", "char", "checked", "class",
  "const", "continue", "decimal", "default", "delegate", "do", "double", "else", "enum", "event",
  "explicit", "extern", "false", "finally", "fixed", "float", "for", "foreach", "goto", "if",
  "implicit", "in", "int", "interface", "internal", "is", "lock", "long", "namespace", "new",
  "null", "object", "operator", "out", "override", "params", "private", "protected", "public",
  "readonly", "ref", "return", "sbyte", "sealed", "short", "sizeof", "stackalloc", "static",
  "string", "struct", "switch", "this", "throw", "true", "try", "typeof", "uint", "ulong",
  "unchecked", "unsafe", "ushort", "using", "virtual", "void", "volatile",
  "while"] : List String).map Text.ofString

/-- The underscores at the start of a name. -/
def leadingUnderscores (name : Text) : Text := name.takeWhile (· = 95)

/-- A name without the underscores at its start. -/
def withoutUnderscores (name : Text) : Text := name.dropWhile (· = 95)

/-- A word with its first letter in capital form. -/
def capitalized : Text → Text
  | [] => []
  | c :: rest => c.upper ++ rest

/-- A word with its first letter in small form. -/
def uncapitalized : Text → Text
  | [] => []
  | c :: rest => c.lower ++ rest

/-- The words of a name between underscores. -/
def words (name : Text) : List Text := (name.split 95).filter (· ≠ [])

/-- A name in upper camel case, leading underscores kept. -/
def toPascalCase (name : Text) : Text :=
  leadingUnderscores name ++ (words (withoutUnderscores name)).flatMap capitalized

/-- A name in lower camel case, leading underscores kept. -/
def toCamelCase (name : Text) : Text :=
  let pascal := toPascalCase name
  leadingUnderscores pascal ++ uncapitalized (withoutUnderscores pascal)

/-- A name made fit to stand as an identifier. -/
def escape (name : Text) : Text :=
  if keywords.contains name then 64 :: name
  else
    match name with
    | [] => [95]
    | c :: _ => if c.isDigit then 95 :: name else name

/-- The identifier for a name. -/
def normalize (name : Text) : Text := escape (toCamelCase name)

end SignatureBridge.Identifier
