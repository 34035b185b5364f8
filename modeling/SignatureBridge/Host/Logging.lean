import SignatureBridge.Host.Basic
import SignatureBridge.Journal.Timing

/-!
# Logging on a host

`Host.log` sends a record to the channels. `Host.startLogging` opens a log file in a directory and
sets the channels up; `Host.resetLogging` takes them down again. Starting twice is the same as
starting once.

Starting does several things in order, and what was done before a failure stays: the directory, the
console channel and the path of the log file outlive a log file that cannot be opened.
-/

namespace SignatureBridge

open Journal

namespace FilePath

/-- The absolute path of a path, with two dots worked off name by name. -/
def absolute (workingDirectory : Location) (p : FilePath) : FilePath :=
  let step (here : Location) (name : Text) : Location :=
    if name = ".." then here.dropLast else here ++ [name]
  match p.start with
  | .workingDirectory => { start := .root, names := p.names.foldl step workingDirectory }
  | start => { start, names := p.names.foldl step [] }

end FilePath

namespace Host

/-! ### Records -/

/-- The report on a record that a channel cannot write. -/
def undeliverable (r : Record) (cause : Utf8.EncodeError) : Text :=
  "--- Logging error ---\nTraceback (most recent call last):\nUnicodeEncodeError: " ++
    cause.message ++ "\nCall stack:\nMessage: " ++ r.message.quoted ++ "\nArguments: ()\n"

/-- Sends a record to a channel. -/
def deliver (r : Record) (host : Host) : Channel → Host
  | .console least =>
    if r.level.reaches least then
      match host.print (r.brief ++ [10]) with
      | (.ok (), host) => host
      | (.error cause, host) => host.complain (undeliverable r cause)
    else host
  | .file l =>
    match Utf8.encode (r.full host.clock.stamp ++ [10]) with
    | .ok bytes => { host with files := host.files.appendAt l bytes }
    | .error cause => host.complain (undeliverable r cause)

/-- Sends a record to every channel, if it is weighty enough to be kept. -/
def log (r : Record) (host : Host) : Host :=
  if r.level.reaches host.routing.least then
    match host.routing.channels with
    | [] => if r.level.reaches .warning then host.complain (r.message ++ [10]) else host
    | channels => channels.foldl (deliver r) host
  else host

/-- Sends records one after the other. -/
def logAll (records : List Record) (host : Host) : Host :=
  records.foldl (fun host r ↦ host.log r) host

/-! ### Starting and resetting -/

/-- How logging is started. -/
structure LogOptions where
  directory : FilePath
  verbose : Bool := false
  /-- The first part of the log file's name. -/
  name : Text
  /-- The moment in the log file's name. -/
  moment : Moment

/-- The path of the log file. -/
def LogOptions.logFile (options : LogOptions) : FilePath :=
  options.directory.append (.ofText (options.name ++ "_" ++ options.moment.compact ++ ".log"))

/-- The level from which the console shows records. -/
def LogOptions.consoleLevel (options : LogOptions) : Level :=
  if options.verbose then .debug else .info

/-- The routing between the console's being set up and the log file's being opened. -/
def LogOptions.opening (options : LogOptions) (routing : Routing) : Routing :=
  { routing with
    least := .debug
    channels := [.console options.consoleLevel]
    logFile := some options.logFile }

/-- The routing while logging is started. -/
def LogOptions.running (options : LogOptions) (log : Location) : Routing :=
  { least := .debug
    channels := [.console options.consoleLevel, .file log]
    started := true
    logFile := some options.logFile }

/-- The records with which a log begins. -/
def LogOptions.firstRecords (options : LogOptions) : List Record := [
  ⟨.sessions, .info, "Logging initialized. Log file: " ++ options.logFile.text⟩,
  ⟨.sessions, .debug, "Verbose mode: " ++ Text.ofBool options.verbose⟩]

/-- Opens the log file and sets the channels up. -/
def openLog (options : LogOptions) (host : Host) : Except FileError Unit × Host :=
  let host := { host with routing := options.opening host.routing }
  match host.files.openForWriting [] (options.logFile.absolute host.workingDirectory) with
  | .error cause => (.error cause, host)
  | .ok log =>
    let host := { host with files := host.files.appendAt log [], routing := options.running log }
    (.ok (), host.logAll options.firstRecords)

/-- Starts logging, unless that has been done. -/
def startLogging (options : LogOptions) (host : Host) : Except FileError Unit × Host :=
  if host.routing.started then (.ok (), host)
  else
    match host.files.ensureDirectories host.workingDirectory options.directory with
    | (.error cause, files) => (.error cause, { host with files })
    | (.ok (), files) => openLog options { host with files }

/-- Takes down the channels that starting has set up. -/
def resetLogging (host : Host) : Host :=
  { host with
    routing :=
      { host.routing with
        channels := if host.routing.started then [] else host.routing.channels
        started := false
        logFile := none } }

/-! ### Timed activities -/

/-- Records that an activity starts. -/
def begin (a : Activity) (host : Host) : Host := host.log a.started

/-- Records that an activity has failed. -/
def abandon (a : Activity) (elapsed cause : Text) (host : Host) : Host :=
  host.log (a.failed elapsed cause)

end Host

end SignatureBridge
