import SignatureBridge.Command.Batch
import SignatureBridge.Command.Usage
import SignatureBridge.Host.Configuration
import SignatureBridge.Host.Signatures

/-!
# A run of the command

`Run.execute` takes a host through a run: the arguments are read, the settings are settled and
checked, logging is started, the signatures are loaded and selected, the batch is reflected, and its
text goes to the output file or to the output stream. A run ends with an exit code, or with a
failure that nothing in it takes care of; the failure is recorded.

A step is an `Action`: it may end the run, and it changes the host. What a batch makes of its
signatures is settled without the host (`Batch.attempts`); the host only gets the records of it.
-/

namespace SignatureBridge

open Journal

/-- How a run ends. -/
inductive Ending where
  | exit (code : Nat)
  | raised (cause : Failure)
  deriving DecidableEq

/-- How the command is started. -/
structure EntryPoint where
  /-- The name of the program in the usage. -/
  program : Text := "pysharp-reflector"
  /-- The origin of the command's own records. -/
  origin : Origin := .command

/-- A step of a run. -/
abbrev Action (α : Type) := ExceptT Ending (StateM Host) α

namespace Run

/-! ### Steps -/

/-- Changes the host. -/
def change (f : Host → Host) : Action Unit := modifyThe Host f

/-- Records something. -/
def log (r : Record) : Action Unit := change (·.log r)

/-- Does something on the host; a failure ends the run. -/
def attempt {ε α : Type} (asFailure : ε → Failure) (f : Host → Except ε α × Host) : Action α := do
  let (result, host) := f (← getThe Host)
  set host
  match result with
  | .ok a => return a
  | .error cause => throw (.raised (asFailure cause))

/-- Ends the run after a report on the error stream. -/
def stopWith {α : Type} (report : Text) (code : Nat) : Action α := do
  change (·.complain report)
  throw (.exit code)

/-- Reads the arguments; a request for help and an error end the run. -/
def readArguments (entry : EntryPoint) (words : List Text) : Action Arguments :=
  match Arguments.read words with
  | .ok arguments => return arguments
  | .error .help => do
    attempt .unencodable (·.print (Usage.help entry.program))
    throw (.exit 0)
  | .error (.error cause) => stopWith (Usage.errorReport entry.program cause) 2

end Run

/-- The settings that arguments give. The switch for being verbose always counts as given. -/
def Arguments.overrides (a : Arguments) : Overrides where
  signatureFile := a.signatureFile
  outputDir := a.outputDir
  verbose := some a.verbose
  logDir := a.logDir

/-- Loads the settings with the given ones in place and checks them. -/
def Host.configure (o : Overrides) (host : Host) : Except Failure Config × Host :=
  let (result, host) := host.loadConfigWith o
  match result with
  | .error cause => (.error cause, host)
  | .ok c => ((host.checkConfig c).map fun () ↦ c, host)

namespace Run

/-- Settles the settings; an invalid one is reported and ends the run. -/
def configure (a : Arguments) : Action Config := do
  let (result, host) := (← getThe Host).configure a.overrides
  set host
  match result with
  | .ok c => return c
  | .error cause =>
    if cause.isInvalid then stopWith ("Configuration error: " ++ cause.message ++ "\n") 1
    else throw (.raised cause)

/-- Starts logging and records the settings. -/
def startLogging (origin : Origin) (c : Config) (t : Tuning) : Action Unit := do
  let directory ← attempt .file fun host ↦ (c.logDir.path, host)
  let moment := (← getThe Host).clock
  attempt .file (·.startLogging { directory, verbose := c.verbose, name := t.logName, moment })
  log ⟨origin, .debug, "Signature file: " ++ c.signatureFile.text⟩
  log ⟨origin, .debug, "Output directory: " ++ c.outputDir.text⟩

/-- Ends the run with a record of what is wrong. -/
def failWith {α : Type} (origin : Origin) (report : Text) : Action α := do
  log ⟨origin, .error, report⟩
  throw (.exit 1)

/-- Loads the signatures of a file. -/
def loadSignatures (origin : Origin) (p : FilePath) : Action (List Signature) := do
  let (result, host) := (← getThe Host).loadSignatures p
  set host
  match result with
  | .ok signatures => return signatures
  | .error cause => failWith origin ("Could not load signatures: " ++ cause.message)

/-- Selects signatures, of which there has to be one. -/
def selectSignatures (origin : Origin) (list : Option Text) (signatures : List Signature) :
    Action (List Signature) :=
  match Batch.selection list signatures with
  | .error unknown =>
    failWith origin ("Function(s) not found in signature file: " ++ Text.join ", " unknown)
  | .ok [] => failWith origin "No functions to reflect"
  | .ok (s :: rest) => return s :: rest

/-! ### Reflection -/

/-- The records of an attempt, which is one of a number. -/
def attemptRecords (origin : Origin) (checkOrder : Bool) (index total : Nat) (a : Attempt) :
    List Record :=
  let head : Record :=
    ⟨origin, .debug,
      "[" ++ Text.ofNat index ++ "/" ++ Text.ofNat total ++ "] Processing: " ++ a.signature.name⟩
  let last : List Record :=
    match a.outcome with
    | .ok _ => []
    | .error cause =>
      if cause.isExpected then
        [⟨origin, .error, "[FAILED] " ++ a.signature.name ++ ": " ++ cause.message⟩]
      else []
  head :: a.signature.records checkOrder ++ last

/-- The trace of a failure on the error stream. -/
def trace (cause : ReflectError) : Text :=
  "Traceback (most recent call last):\n" ++ cause.category ++ ": " ++ cause.message ++ "\n"

/-- Records an attempt; a verbose run also traces the failures that the batch takes note of. -/
def reportAttempt (origin : Origin) (checkOrder verbose : Bool) (total index : Nat) (a : Attempt)
    (host : Host) : Host :=
  let host := host.logAll (attemptRecords origin checkOrder index total a)
  match a.outcome with
  | .ok _ => host
  | .error cause => if verbose && cause.isExpected then host.complain (trace cause) else host

/-- Records attempts, counting from an index. -/
def reportAttempts (origin : Origin) (checkOrder verbose : Bool) (total : Nat) :
    (index : Nat) → List Attempt → Host → Host
  | _, [], host => host
  | index, a :: rest, host =>
    reportAttempts origin checkOrder verbose total (index + 1) rest
      (reportAttempt origin checkOrder verbose total index a host)

/-- Reflects signatures and records what comes of it. -/
def reflectAll (origin : Origin) (t : Tuning) (verbose : Bool) (signatures : List Signature) :
    Action (List Attempt) := do
  log ⟨origin, .info, "Reflecting " ++ Text.ofNat signatures.length ++ " function(s)"⟩
  let attempts := Batch.attempts t.failFast signatures
  change (reportAttempts origin t.checkOrder verbose signatures.length 1 attempts)
  match Batch.fatal? attempts with
  | some cause => throw (.raised (.reflect cause))
  | none => return attempts

/-! ### Output -/

end Run

/-- Replaces a file by a text. The file is emptied first, and stays so if the text has no
encoding. -/
def Host.writeFile (p : FilePath) (t : Text) (host : Host) : Except Failure Unit × Host :=
  match host.files.openForWriting host.workingDirectory p with
  | .error cause => (.error (.file cause), host)
  | .ok l =>
    match Utf8.encode t with
    | .error cause =>
      (.error (.unencodable cause), { host with files := host.files.put l (.file []) })
    | .ok bytes => (.ok (), { host with files := host.files.put l (.file bytes) })

namespace Run

/-- Writes a text to the output file of the settings. The suffix of the file is looked up at this
point. -/
def writeOutput (origin : Origin) (c : Config) (t : Text) : Action Unit := do
  let directory ← attempt .file (·.ensureOutputDir c)
  let tuning := Tuning.ofEnvironment (← getThe Host).environment
  let file := tuning.outputFile c.signatureFile directory
  attempt id (·.writeFile file t)
  log ⟨origin, .info, "[SUCCESS] Wrote: " ++ file.text⟩

/-- Puts the text of a batch where it is to go. -/
def emit (origin : Origin) (a : Arguments) (c : Config) (t : Text) : Action Unit :=
  if a.toOutput then attempt .unencodable (·.print t) else writeOutput origin c t

/-- The lines of the summary. -/
def summary (total : Nat) (attempts : List Attempt) : List Text :=
  let rule : Text := List.replicate 70 61
  let failures := Batch.failures attempts
  let failed : List Text :=
    match failures with
    | [] => []
    | _ => ("Failed functions:" : Text) :: failures.map fun (name, cause) ↦
        "  - " ++ name ++ ": " ++ cause.message
  [rule, ("REFLECTION SUMMARY" : Text), rule,
    "Total functions: " ++ Text.ofNat total,
    "Successfully reflected: " ++ Text.ofNat (Batch.outputLines attempts).length,
    "Failed: " ++ Text.ofNat failures.length] ++ failed

/-- The exit code after attempts. -/
def exitCode (attempts : List Attempt) : Nat := if Batch.failures attempts = [] then 0 else 1

/-! ### The run -/

/-- The steps of a run, after which it ends with an exit code. -/
def steps (entry : EntryPoint) (words : List Text) : Action Nat := do
  let arguments ← readArguments entry words
  let tuning := Tuning.ofEnvironment (← getThe Host).environment
  let config ← configure arguments
  startLogging entry.origin config tuning
  let loaded ← loadSignatures entry.origin config.signatureFile
  let signatures ← selectSignatures entry.origin arguments.functions loaded
  let attempts ← reflectAll entry.origin tuning config.verbose signatures
  emit entry.origin arguments config (Batch.output attempts)
  change (·.logAll ((summary signatures.length attempts).map fun line ↦
    ⟨entry.origin, .info, line⟩))
  return exitCode attempts

/-- The activity of a run. -/
def activity (entry : EntryPoint) : Activity := ⟨entry.origin, "main"⟩

/-- A run of the command on a host. -/
def execute (entry : EntryPoint) (words : List Text) (host : Host) : Ending × Host :=
  match steps entry words (host.begin (activity entry)) with
  | (.ok code, host) => (.exit code, host)
  | (.error (.exit code), host) => (.exit code, host)
  | (.error (.raised cause), host) =>
    (.raised cause, host.abandon (activity entry) noTime cause.message)

end Run

end SignatureBridge
