import SignatureBridge.Command.Arguments

/-!
# Usage and help

The usage lists what the command takes, in lines of at most `Usage.width` letters under the name of
the program. The options come first and the signature file on a line of its own. The help continues
with a line for each argument and with examples.
-/

namespace SignatureBridge.Usage

open CommandLine

/-- The greatest length of a line. -/
def width : Nat := 78

/-- The word for the value of an option. -/
def valueName? : Switch → Option Text
  | .outputDir => some "OUTPUT"
  | .logDir => some "LOG_DIR"
  | .function => some "NAME"
  | _ => none

/-- An option as the usage lists it. -/
def entry (s : Switch) : Text :=
  let value : Text := match valueName? s with | some name => " " ++ name | none => []
  "[" ++ s.short?.getD s.long ++ value ++ "]"

/-- Entries laid out in lines; the first argument is how far the present line is filled. -/
def layOut (indent : Nat) : (filled : Nat) → List Text → Text
  | _, [] => []
  | filled, entry :: entries =>
    if filled + 1 + entry.length ≤ width then
      " " ++ entry ++ layOut indent (filled + 1 + entry.length) entries
    else
      "\n" ++ (List.replicate indent 32 : Text) ++ " " ++ entry ++
        layOut indent (indent + 1 + entry.length) entries

/-- The usage of a program. -/
def text (program : Text) : Text :=
  let head : Text := "usage: " ++ program
  head ++ layOut head.length head.length (Switch.all.map entry) ++ "\n" ++
    (List.replicate head.length 32 : Text) ++ " [signature_file]\n"

/-- The lines of the help after the usage. -/
def details : List Text := ([
  "",
  "Reflect Python function signatures into C# interop parameter lists",
  "",
  "positional arguments:",
  "  signature_file        Path to the JSON signature file (optional if using",
  "                        .env)",
  "",
  "options:",
  "  -h, --help            show this help message and exit",
  "  -o OUTPUT, --output OUTPUT",
  "                        Output directory for reflected parameter lists",
  "                        (default: ./output)",
  "  -v, --verbose         Enable verbose output with debug logs",
  "  --log-dir LOG_DIR     Directory for log files (default: ./logs)",
  "  --function NAME       Reflect only the named function(s). Supports comma-",
  "                        separated list: 'load_model,predict'",
  "  --stdout              Write reflected parameter lists to stdout instead of a",
  "                        file",
  "",
  "Examples:",
  "  # Reflect every function in a signature file (writes output/<stem>.params.cs)",
  "  python main.py signatures.json",
  "",
  "  # Reflect selected functions only",
  "  python main.py signatures.json --function load_model,predict",
  "",
  "  # Print to the console instead of writing a file",
  "  python main.py signatures.json --stdout",
  "",
  "  # Verbose mode with debug logs",
  "  python main.py signatures.json --verbose",
  "",
  "  # Using .env file for configuration",
  "  echo 'SIGNATURE_FILE_PATH=signatures.json' > .env",
  "  python main.py",
  "        "] : List String).map Text.ofString

/-- The help of a program. -/
def help (program : Text) : Text := text program ++ Text.lines details

/-- The report on words that cannot be used. -/
def errorReport (program : Text) (cause : UsageError) : Text :=
  text program ++ program ++ ": error: " ++ cause.message ++ "\n"

end SignatureBridge.Usage
