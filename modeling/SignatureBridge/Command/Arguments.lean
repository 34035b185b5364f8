import SignatureBridge.Settings.DirectoryChoice
import SignatureBridge.Text.Digit
import SignatureBridge.Text.Quoted

/-!
# Command line arguments

`Arguments.read` takes the words of a command line. A word is classified first, on its own: it
spells an option, possibly with a value attached, or looks like an option that nobody knows, or is a
plain argument (`Word`). After two bare dashes every word is plain. Then the words are gone through
in order, and each option takes effect when it is reached (`interpret`); asking for help ends the
reading.

A long option may be shortened as long as one option is meant. Short options may be run together;
the first of them that takes a value takes the rest of the word, or the next word if nothing is
left. A value may be attached to an option behind an equals sign. An equals sign behind the first
short option of a word does no more than that: after an option that takes no value the letters still
spell options.

Two dashes that are attached to an option as its value count as the end of the options and are
dropped, so the option is there without a value.
-/

namespace SignatureBridge

/-- What the words of a command line ask for. -/
structure Arguments where
  signatureFile : Option FilePath := none
  outputDir : Option DirectoryChoice := none
  verbose : Bool := false
  logDir : Option DirectoryChoice := none
  /-- The names of the functions to reflect, with commas between them. -/
  functions : Option Text := none
  /-- Whether the result goes to the output stream. -/
  toOutput : Bool := false
  deriving DecidableEq

namespace CommandLine

/-! ### Options -/

/-- An option of the command. -/
inductive Switch where
  | help
  | outputDir
  | verbose
  | logDir
  | function
  | toOutput
  deriving DecidableEq

namespace Switch

/-- All options in the order of the help text. -/
def all : List Switch := [help, outputDir, verbose, logDir, function, toOutput]

/-- The short spelling, if there is one. -/
def short? : Switch → Option Text
  | help => some "-h"
  | outputDir => some "-o"
  | verbose => some "-v"
  | _ => none

/-- The long spelling. -/
def long : Switch → Text
  | help => "--help"
  | outputDir => "--output"
  | verbose => "--verbose"
  | logDir => "--log-dir"
  | function => "--function"
  | toOutput => "--stdout"

/-- Both spellings, as messages name the option. -/
def title (s : Switch) : Text :=
  match s.short? with
  | some short => short ++ "/" ++ s.long
  | none => s.long

/-- Whether the option takes a value. -/
def takesValue : Switch → Bool
  | outputDir | logDir | function => true
  | _ => false

/-- The option of a short spelling. -/
def ofShort? (t : Text) : Option Switch := all.find? fun s ↦ s.short? = some t

/-- The option of a long spelling. -/
def ofLong? (t : Text) : Option Switch := all.find? fun s ↦ s.long = t

/-- The options that a long spelling may be short for. -/
def abbreviatedBy (t : Text) : List Switch := all.filter fun s ↦ t.isPrefixOf s.long

end Switch

/-! ### Errors -/

/-- Why the words of a command line cannot be used. -/
inductive UsageError where
  | ambiguous (word : Text) (candidates : List Switch)
  | missingValue (option : Switch)
  | unwantedValue (option : Switch) (value : Text)
  | leftOver (words : List Text)
  deriving DecidableEq

/-- The wording of the cause. -/
def UsageError.message : UsageError → Text
  | ambiguous word candidates =>
    "ambiguous option: " ++ word ++ " could match " ++ Text.join ", " (candidates.map Switch.long)
  | missingValue option => "argument " ++ option.title ++ ": expected one argument"
  | unwantedValue option value =>
    "argument " ++ option.title ++ ": ignored explicit argument " ++ value.quoted
  | leftOver words => "unrecognized arguments: " ++ Text.join " " words

/-- Why reading stops early. -/
inductive Stop where
  /-- Help is asked for. -/
  | help
  | error (cause : UsageError)
  deriving DecidableEq

/-! ### Words -/

/-- A classified word. -/
inductive Word where
  /-- An option, and what is attached to it. -/
  | option (switch : Switch) (isLong : Bool) (attached : Option Text)
  /-- Something that looks like an option. -/
  | unknown (word : Text)
  | plain (word : Text)
  /-- Two bare dashes. -/
  | dashes
  deriving DecidableEq

/-- A negative number in decimal; a line feed at the end does not count. -/
def isNegativeNumber : Text → Bool
  | [] => false
  | c :: rest =>
    let isDecimal (d : CodePoint) : Bool := d.decimalValue?.isSome
    let digits : Text := if rest.getLast? = some 10 then rest.dropLast else rest
    let fraction : Text := (digits.dropWhile isDecimal).drop 1
    c = 45 && digits ≠ [] &&
      (digits.all isDecimal ||
        (digits.dropWhile isDecimal).head? = some 46 && fraction ≠ [] && fraction.all isDecimal)

/-- A word that starts with a dash and spells no option. -/
def classifyStray (word : Text) : Word :=
  if isNegativeNumber word || word.contains 32 then .plain word else .unknown word

/-- A word that starts with two dashes. -/
def classifyLong (word : Text) : Except UsageError Word :=
  let (spelling, attached) : Text × Option Text :=
    match word.cutAt? 61 with
    | some (spelling, value) => (spelling, some value)
    | none => (word, none)
  match Switch.ofLong? spelling with
  | some s => .ok (.option s true attached)
  | none =>
    match Switch.abbreviatedBy spelling with
    | [] => .ok (classifyStray word)
    | [s] => .ok (.option s true attached)
    | candidates => .error (.ambiguous word candidates)

/-- What is attached to a short option, from the letters behind it. -/
def attachedTo : Text → Option Text
  | [] => none
  | c :: rest => some (if c = 61 then rest else c :: rest)

/-- The class of a word. -/
def classify : Text → Except UsageError Word
  | [] => .ok (.plain [])
  | [c] => .ok (.plain [c])
  | c :: d :: rest =>
    if c ≠ 45 then .ok (.plain (c :: d :: rest))
    else if d = 45 then classifyLong (c :: d :: rest)
    else
      match Switch.ofShort? [c, d] with
      | some s => .ok (.option s false (attachedTo rest))
      | none => .ok (classifyStray (c :: d :: rest))

/-- The classes of the words of a command line. -/
def classifyAll : List Text → Except UsageError (List Word)
  | [] => .ok []
  | word :: words => do
    if word = "--" then return .dashes :: words.map .plain
    else return (← classify word) :: (← classifyAll words)

/-! ### Options run together -/

/-- The options that a word spells. -/
structure Cluster where
  /-- The options that are complete, with their values. -/
  complete : List (Switch × Text) := []
  /-- An option that takes the next word as its value. -/
  waiting : Option Switch := none
  deriving DecidableEq

namespace Cluster

/-- An option with nothing attached. -/
def bare (s : Switch) : Cluster :=
  if s.takesValue then { waiting := some s } else { complete := [(s, [])] }

/-- A cluster with an option in front. -/
def after (s : Switch) (c : Cluster) : Cluster := { c with complete := (s, []) :: c.complete }

/-- The options of a word from one on that has something attached. Behind a short option that takes
no value it spells more short options. -/
def withAttached (s : Switch) (isLong : Bool) : Text → Except UsageError Cluster
  | [] => if s.takesValue then .ok { complete := [(s, [])] } else .error (.unwantedValue s [])
  | c :: rest =>
    if s.takesValue then .ok { complete := [(s, c :: rest)] }
    else if isLong then .error (.unwantedValue s (c :: rest))
    else
      match Switch.ofShort? [45, c], rest with
      | none, _ => .error (.unwantedValue s (c :: rest))
      | some next, [] => .ok (.after s (.bare next))
      | some next, d :: more => (withAttached next false (d :: more)).map (.after s)

/-- The options of a word. -/
def ofOption (s : Switch) (isLong : Bool) : Option Text → Except UsageError Cluster
  | none => .ok (.bare s)
  | some attached => withAttached s isLong attached

end Cluster

/-! ### Taking effect -/

/-- How far the words have been gone through. -/
structure Progress where
  arguments : Arguments := {}
  /-- Whether the signature file may still come. -/
  awaiting : Bool := true
  /-- The words that nothing takes, in reverse. -/
  leftOver : List Text := []

namespace Progress

/-- A word that nothing takes. -/
def leave (word : Text) (p : Progress) : Progress := { p with leftOver := word :: p.leftOver }

/-- A word that is the signature file. -/
def takeFile (word : Text) (p : Progress) : Progress :=
  { p with
      arguments := { p.arguments with signatureFile := some (.ofText word) }
      awaiting := false }

/-- The value of an option without the dashes that end the options. -/
def keptValue? (value : Text) : Option Text := if value = "--" then none else some value

/-- An option with its value takes effect. -/
def takeOption (p : Progress) : Switch × Text → Except Stop Progress
  | (.help, _) => .error .help
  | (.outputDir, value) =>
    .ok { p with
      arguments := { p.arguments with outputDir := some (.ofValue? (keptValue? value)) } }
  | (.verbose, _) => .ok { p with arguments := { p.arguments with verbose := true } }
  | (.logDir, value) =>
    .ok { p with
      arguments := { p.arguments with logDir := some (.ofValue? (keptValue? value)) } }
  | (.function, value) =>
    .ok { p with
      arguments := { p.arguments with functions := some ((keptValue? value).getD []) } }
  | (.toOutput, _) => .ok { p with arguments := { p.arguments with toOutput := true } }

/-- The complete options of a word take effect. -/
def takeCluster (c : Cluster) (p : Progress) : Except Stop Progress :=
  c.complete.foldlM takeOption p

/-- Goes through the words. The dashes belong to the signature file that they stand next to, if it
is still to come. -/
def interpret (p : Progress) : List Word → Except Stop Progress
  | [] => .ok p
  | .unknown word :: words => interpret (p.leave word) words
  | .plain word :: .dashes :: words =>
    if p.awaiting then interpret (p.takeFile word) words
    else interpret ((p.leave word).leave "--") words
  | .plain word :: words => interpret (if p.awaiting then p.takeFile word else p.leave word) words
  | .dashes :: words => interpret (if p.awaiting then p else p.leave "--") words
  | .option s isLong attached :: words =>
    match Cluster.ofOption s isLong attached with
    | .error cause => .error (.error cause)
    | .ok c =>
      match c.waiting, words with
      | none, words =>
        match p.takeCluster c with
        | .error stop => .error stop
        | .ok p => interpret p words
      | some s, .plain value :: words =>
        match p.takeCluster { c with complete := c.complete ++ [(s, value)] } with
        | .error stop => .error stop
        | .ok p => interpret p words
      | some s, _ => .error (.error (.missingValue s))
  termination_by words => words.length
  decreasing_by all_goals simp only [List.length_cons]; omega

end Progress

end CommandLine

/-- The arguments that the words of a command line spell. -/
def Arguments.read (words : List Text) : Except CommandLine.Stop Arguments :=
  match CommandLine.classifyAll words with
  | .error cause => .error (.error cause)
  | .ok classified =>
    match CommandLine.Progress.interpret {} classified with
    | .error stop => .error stop
    | .ok p =>
      if p.leftOver = [] then .ok p.arguments else .error (.error (.leftOver p.leftOver.reverse))

end SignatureBridge
