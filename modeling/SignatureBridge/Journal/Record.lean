import SignatureBridge.Text.Basic

/-!
# Log records

A record has an origin, a level and a message. The origin is shown by its name in the log file. The
levels are ordered by their rank, and a channel keeps the records from some rank on.
-/

namespace SignatureBridge.Journal

/-- The weight of a record. -/
inductive Level where
  | debug
  | info
  | warning
  | error
  | critical
  deriving DecidableEq

namespace Level

/-- The place of a level in the order of weights. -/
def rank : Level → Nat
  | debug => 0
  | info => 1
  | warning => 2
  | error => 3
  | critical => 4

/-- The name of a level. -/
def name : Level → Text
  | debug => "DEBUG"
  | info => "INFO"
  | warning => "WARNING"
  | error => "ERROR"
  | critical => "CRITICAL"

/-- All levels. -/
def all : List Level := [debug, info, warning, error, critical]

/-- The level of a name. -/
def ofName? (t : Text) : Option Level := all.find? (·.name = t)

/-- Whether a level weighs at least as much as another. -/
def reaches (level least : Level) : Bool := least.rank ≤ level.rank

end Level

/-- The part of the program that a record comes from. -/
inductive Origin where
  /-- The command, run through its entry point. -/
  | command
  /-- The command, run as a script of its own. -/
  | script
  | documents
  | types
  | defaults
  | parameters
  | sessions
  | envFile
  /-- A part with a name of its own; without one it is the root. -/
  | named (name : Text)
  deriving DecidableEq

/-- The name under which an origin appears. -/
def Origin.name : Origin → Text
  | command => "pysharp_reflector.main"
  | script => "__main__"
  | documents => "pysharp_reflector.domain.services.loading.signature_loader"
  | types => "pysharp_reflector.domain.services.reflection.type_reflection"
  | defaults => "pysharp_reflector.domain.services.reflection.literal_renderer"
  | parameters => "pysharp_reflector.domain.services.reflection.argument_reflection"
  | sessions => "pysharp_reflector.infrastructure.logging.logger_setup"
  | envFile => "dotenv.main"
  | named [] => "root"
  | named name => name

/-- A log record. -/
structure Record where
  origin : Origin
  level : Level
  message : Text
  deriving DecidableEq

namespace Record

/-- The one-line form on the console. -/
def brief (r : Record) : Text := r.level.name ++ ": " ++ r.message

/-- The one-line form in the log file, under the time of the record. -/
def full (stamp : Text) (r : Record) : Text :=
  stamp ++ " - " ++ r.origin.name ++ " - " ++ r.level.name ++ " - " ++ r.message

end Record

end SignatureBridge.Journal
