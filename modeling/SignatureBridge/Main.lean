import SignatureBridge.Command.Reach
import Std.Time.Zoned

/-!
# The program

The program looks at what a run can reach, takes the run through with `Run.execute`, and makes the
changes that come of it. Nothing is decided here.
-/

namespace SignatureBridge.Program

/-- The name of a location for the system. -/
def pathOf (l : Location) : String := "/" ++ Text.toString (Text.join [47] l)

/-- The entry at a location in a directory, if there is one. -/
def observe (l : Location) : IO (Option Entry) := do
  try
    let bytes ← IO.FS.readBinFile (pathOf l)
    return some (.file bytes.toList)
  catch
    | .inappropriateType .. => return some .directory
    | _ => return none

/-- The host with what is at a location, if that is in a directory and not known yet. -/
def look (host : Host) (l : Location) : IO Host := do
  if host.files.get? l = none ∧ host.files.get? l.dropLast = some .directory then
    match ← observe l with
    | some e => return { host with files := host.files.put l e }
    | none => return host
  else return host

/-- The host with what is at the locations of some paths. -/
def lookAt (host : Host) (paths : List FilePath) : IO Host :=
  (paths.flatMap (FilePath.locations host.workingDirectory)).foldlM look host

/-- The host with the values of some variables. -/
def lookUp (host : Host) (names : List Text) : IO Host :=
  names.foldlM
    (fun host name ↦ do
      match ← IO.getEnv (Text.toString name) with
      | some value =>
        return { host with environment := host.environment.set name (Text.ofString value) }
      | none => return host)
    host

/-- The present moment. -/
def now : IO Journal.Moment := do
  let time ← Std.Time.PlainDateTime.now
  return {
    year := time.year.toInt.toNat
    month := time.month.toNat
    day := time.day.toNat
    hour := time.hour.toNat
    minute := time.minute.toNat
    second := time.second.toNat }

/-- The host that a run starts on. -/
def observeHost (words : List Text) : IO Host := do
  let directory : FilePath := .ofText (Text.ofString (← IO.currentDir).toString)
  let bare : Host := { workingDirectory := directory.names, clock := ← now }
  let host ← lookAt bare [directory, Host.envFile]
  let mentioned : List Text :=
    match (host.files.readFile host.workingDirectory Host.envFile).toOption.bind
      fun bytes ↦ (Utf8.decode bytes).toOption with
    | some t => EnvFile.mentionedNames t
    | none => []
  let host ← lookUp host (Config.sources ++ Tuning.sources ++ mentioned)
  lookAt host (Run.reach words host)

/-- Makes the entry at a location. -/
def realise : Location × Entry → IO Unit
  | (l, .directory) => IO.FS.createDirAll (pathOf l)
  | (l, .file bytes) => IO.FS.writeBinFile (pathOf l) (ByteArray.mk bytes.toArray)

/-- Makes the changes from one file system to another. -/
def settle (before after : FileSystem) : IO Unit :=
  (after.entries.filter fun (l, e) ↦ before.get? l ≠ some e).forM realise

/-- The exit code of an ending, after a report on a failure that nothing took care of. -/
def finish : Ending → IO UInt32
  | .exit code => return UInt32.ofNat code
  | .raised cause => do
    IO.eprintln (Text.toString (cause.category ++ ": " ++ cause.message))
    return 1

end SignatureBridge.Program

open SignatureBridge Program in
/-- Runs the command on the words of the command line. -/
def main (words : List String) : IO UInt32 := do
  let words := words.map Text.ofString
  let host ← observeHost words
  let (ending, after) := Run.execute {} words host
  settle host.files after.files
  IO.print (Text.toString after.output)
  IO.eprint (Text.toString after.errors)
  finish ending
