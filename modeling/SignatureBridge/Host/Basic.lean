import SignatureBridge.Journal.Moment
import SignatureBridge.Journal.Record
import SignatureBridge.Settings.Environment
import SignatureBridge.Storage.FileSystem

/-!
# The host of a run

A `Host` is all that a run of the tool can see and change: the files, the working directory, the
environment, the clock, the two streams of text that it writes, and where its log records go. A step
of the tool is a function of the host, so what a run leaves behind can be stated as an equation.

Records go to channels. The console takes those from some level on, a log file takes all. Before
logging is started there is no channel and only weighty records are kept at all; such a record then
appears on the error stream as its bare message.
-/

namespace SignatureBridge

namespace Journal

/-- A place that records go to. -/
inductive Channel where
  /-- The console, for records from a level on. -/
  | console (least : Level)
  /-- The log file at a location. -/
  | file (location : Location)
  deriving DecidableEq

/-- Where records go at a time. -/
structure Routing where
  /-- The level from which records are kept. -/
  least : Level := .warning
  channels : List Channel := []
  /-- Whether logging has been started and not been reset since. -/
  started : Bool := false
  /-- The path of the log file. -/
  logFile : Option FilePath := none
  deriving DecidableEq

end Journal

/-- What a run of the tool can see and change. -/
structure Host where
  files : FileSystem := {}
  workingDirectory : Location := []
  environment : Environment := {}
  clock : Journal.Moment
  routing : Journal.Routing := {}
  /-- The text on the output stream. -/
  output : Text := []
  /-- The text on the error stream. -/
  errors : Text := []

namespace Host

/-- Writes on the output stream, which takes no text with a surrogate. -/
def print (t : Text) (host : Host) : Except Utf8.EncodeError Unit × Host :=
  match Utf8.surrogates? t with
  | some cause => (.error cause, host)
  | none => (.ok (), { host with output := host.output ++ t })

/-- Writes on the error stream, which takes every text. -/
def complain (t : Text) (host : Host) : Host :=
  { host with errors := host.errors ++ t.withoutSurrogates }

end Host

end SignatureBridge
