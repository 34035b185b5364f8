import SignatureBridge.Host.Failure
import SignatureBridge.Host.Logging
import SignatureBridge.Settings.EnvFile

/-!
# Loading settings on a host

Settings are looked up in the environment after an environment file has been loaded into it, if
there is one. What the file sets stays set. Statements that cannot be read are reported and passed
over; a file that is no text, or a name that no environment takes, stops the loading.
-/

namespace SignatureBridge.Host

open Journal

/-- The environment file of a working directory. -/
def envFile : FilePath := .ofText ".env"

/-- The text of an environment file; a directory counts as empty. -/
def envFileText : Entry → Except Utf8.DecodeError Text
  | .directory => .ok []
  | .file bytes => (Utf8.decode bytes).map Utf8.unifyLineEnds

/-- The reports on the statements of an environment file that cannot be read. -/
def envFileRecords (t : Text) : List Record :=
  (EnvFile.malformedLines t).map fun line ↦ ⟨.envFile, .warning, EnvFile.malformedMessage line⟩

/-- Loads an environment file, if it is there. -/
def loadEnvFile (p : FilePath) (host : Host) : Except Failure Unit × Host :=
  match host.files.probe host.workingDirectory p with
  | .error cause => (.error (.file cause), host)
  | .ok none => (.ok (), host)
  | .ok (some entry) =>
    match envFileText entry with
    | .error cause => (.error (.undecodable cause), host)
    | .ok t =>
      let (result, environment) := EnvFile.load t host.environment
      (result.mapError .environment, { host.logAll (envFileRecords t) with environment })

/-- The settings of the environment, after an environment file has been loaded into it. -/
def loadConfig (p : FilePath) (host : Host) : Except Failure Config × Host :=
  let (result, host) := host.loadEnvFile p
  (result.map fun () ↦ .ofEnvironment host.environment, host)

/-- The settings of the environment with the given ones in place. -/
def loadConfigWith (o : Overrides) (host : Host) : Except Failure Config × Host :=
  let (result, host) := host.loadConfig envFile
  (result.map o.apply, host)

/-- Checks that the signature file is there and a file. -/
def checkConfig (c : Config) (host : Host) : Except Failure Unit :=
  match c.check host.files host.workingDirectory with
  | .error cause => .error (.file cause)
  | .ok (.error cause) => .error (.config cause)
  | .ok (.ok ()) => .ok ()

/-- Makes the output directory and gives its path. -/
def ensureOutputDir (c : Config) (host : Host) : Except FileError FilePath × Host :=
  match c.outputDir.path with
  | .error cause => (.error cause, host)
  | .ok p =>
    let (result, files) := host.files.ensureDirectories host.workingDirectory p
    (result.map fun () ↦ p, { host with files })

end SignatureBridge.Host
