import SignatureBridge.Host.Basic
import SignatureBridge.Json.Reader
import SignatureBridge.Reflection.Parameter
import SignatureBridge.Settings.Config
import SignatureBridge.Signature.Document

/-!
# What can stop a run

`LoadError` collects the causes for which a signature file gives no signatures, and `Failure` all
causes for which a step of a run does not end in the ordinary way. Some failures mean that what the
user gave is wrong (`Failure.isInvalid`); at the start of a run these are reported as an error of
the configuration.
-/

namespace SignatureBridge

/-- Why a signature file gives no signatures. -/
inductive LoadError where
  | file (cause : FileError)
  | undecodable (cause : Utf8.DecodeError)
  | malformed (path : FilePath) (cause : Json.Flaw) (place : Json.Position)
  | number (cause : NumberError)
  | document (cause : DocumentError)
  deriving DecidableEq

namespace LoadError

/-- The wording of the cause. -/
def message : LoadError → Text
  | file cause => cause.message
  | undecodable cause => cause.message
  | malformed path cause place =>
    "Invalid JSON in " ++ path.text ++ ": " ++ Json.malformedMessage cause place
  | number cause => cause.message
  | document cause => cause.message

/-- The class under which a report files the cause. -/
def category : LoadError → Text
  | file cause => cause.category
  | undecodable _ => "UnicodeDecodeError"
  | _ => "ValueError"

end LoadError

/-- Why a step of a run did not end in the ordinary way. -/
inductive Failure where
  | file (cause : FileError)
  | environment (cause : EnvironmentError)
  | undecodable (cause : Utf8.DecodeError)
  | unencodable (cause : Utf8.EncodeError)
  | config (cause : ConfigError)
  | reflect (cause : ReflectError)
  deriving DecidableEq

namespace Failure

/-- The wording of the cause. -/
def message : Failure → Text
  | file cause => cause.message
  | environment cause => cause.message
  | undecodable cause => cause.message
  | unencodable cause => cause.message
  | config cause => cause.message
  | reflect cause => cause.message

/-- The class under which a report files the cause. -/
def category : Failure → Text
  | file cause => cause.category
  | environment cause => cause.category
  | undecodable _ => "UnicodeDecodeError"
  | unencodable _ => "UnicodeEncodeError"
  | config _ => "ValueError"
  | reflect cause => cause.category

/-- Whether the cause is that something given has a wrong value. -/
def isInvalid (f : Failure) : Bool :=
  (["ValueError", "UnicodeDecodeError", "UnicodeEncodeError"] : List Text).contains f.category

end Failure

end SignatureBridge
