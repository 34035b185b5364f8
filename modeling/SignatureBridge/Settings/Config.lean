import SignatureBridge.Settings.DirectoryChoice
import SignatureBridge.Settings.Environment
import SignatureBridge.Storage.FileName
import SignatureBridge.Text.LetterCase

/-!
# Settings of a run

A `Config` says which file to read, where to write, where to log and whether to be verbose. Its
fields come from variables of the environment, each with a fixed value for when the variable is not
set (`Config.ofEnvironment`); the command line may override them one by one (`Overrides.apply`).

`Tuning` holds the finer settings, which only the environment can change.
-/

namespace SignatureBridge

/-- Whether a text spells one of the words for yes, in letters of either case. -/
def Text.spellsYes (words : List Text) (t : Text) : Bool := words.contains t.lower

/-- The settings of a run. -/
structure Config where
  signatureFile : FilePath
  outputDir : DirectoryChoice
  verbose : Bool := false
  logDir : DirectoryChoice := .ofText "logs"
  deriving DecidableEq

/-- Why a run cannot go ahead with its settings. -/
inductive ConfigError where
  | missingFile (p : FilePath)
  | notFile (p : FilePath)
  deriving DecidableEq

/-- The wording of the cause. -/
def ConfigError.message : ConfigError → Text
  | missingFile p => "Signature file not found: " ++ p.text
  | notFile p => "Not a file: " ++ p.text

namespace Config

/-- The variables that settings come from. -/
def sources : List Text := ["SIGNATURE_FILE_PATH", "OUTPUT_DIR", "VERBOSE", "LOG_DIR"]

/-- The settings that an environment gives. -/
def ofEnvironment (env : Environment) : Config where
  signatureFile := .ofText (env.getD "SIGNATURE_FILE_PATH" "signatures.json")
  outputDir := .ofText (env.getD "OUTPUT_DIR" "output")
  verbose := (env.getD "VERBOSE" "false").spellsYes ["true", "1", "yes"]
  logDir := .ofText (env.getD "LOG_DIR" "logs")

/-- The entry of the signature file, which has to be a file. -/
def check (c : Config) (files : FileSystem) (workingDirectory : Location) :
    Except FileError (Except ConfigError Unit) :=
  match files.probe workingDirectory c.signatureFile with
  | .error cause => .error cause
  | .ok none => .ok (.error (.missingFile c.signatureFile))
  | .ok (some .directory) => .ok (.error (.notFile c.signatureFile))
  | .ok (some (.file _)) => .ok (.ok ())

end Config

/-- Settings that are given explicitly. -/
structure Overrides where
  signatureFile : Option FilePath := none
  outputDir : Option DirectoryChoice := none
  verbose : Option Bool := none
  logDir : Option DirectoryChoice := none
  deriving DecidableEq

/-- The settings with the given ones in place. -/
def Overrides.apply (o : Overrides) (c : Config) : Config where
  signatureFile := o.signatureFile.getD c.signatureFile
  outputDir := o.outputDir.getD c.outputDir
  verbose := o.verbose.getD c.verbose
  logDir := o.logDir.getD c.logDir

/-- The finer settings. -/
structure Tuning where
  /-- Whether a required parameter after an optional one is reported. -/
  checkOrder : Bool := true
  /-- Whether the first function that fails ends the batch. -/
  failFast : Bool := false
  outputSuffix : Text := FileName.defaultSuffix
  logName : Text := "pysharp_reflector"
  deriving DecidableEq

namespace Tuning

/-- What the variables of the finer settings start with. -/
def family : Text := "PYSHARP_"

/-- The variables that the finer settings come from. -/
def sources : List Text :=
  [family ++ "CHECK_PARAMETER_ORDER", family ++ "FAIL_FAST", family ++ "OUTPUT_FILE_SUFFIX",
    family ++ "LOG_FILE_PREFIX"]

/-- A switch of the environment. -/
def switch (env : Environment) (name : Text) (default : Bool) : Bool :=
  match env.get? (family ++ name) with
  | some value => value.spellsYes ["true", "1", "yes", "on"]
  | none => default

/-- The finer settings that an environment gives. -/
def ofEnvironment (env : Environment) : Tuning where
  checkOrder := switch env "CHECK_PARAMETER_ORDER" true
  failFast := switch env "FAIL_FAST" false
  outputSuffix := env.getD (family ++ "OUTPUT_FILE_SUFFIX") FileName.defaultSuffix
  logName := env.getD (family ++ "LOG_FILE_PREFIX") "pysharp_reflector"

/-- The output file for a signature file. -/
def outputFile (t : Tuning) (signatureFile outputDir : FilePath) : FilePath :=
  outputDir.append (.ofText (FileName.output signatureFile.stem t.outputSuffix))

end Tuning

end SignatureBridge
