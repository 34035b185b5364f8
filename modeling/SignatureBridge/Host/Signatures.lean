import SignatureBridge.Host.Failure
import SignatureBridge.Host.Logging

/-!
# Loading signatures on a host

`Signature.readAll` takes the bytes of a signature file through its four stages: UTF-8 with any line
ends, JSON, the schema, and the signatures. `Host.loadSignatures` does that to a file of the host
and records it as a timed activity.
-/

namespace SignatureBridge

open Journal

/-- The signatures that the bytes of a file describe; messages name the path of the file. -/
def Signature.readAll (p : FilePath) (bytes : List UInt8) : Except LoadError (List Signature) :=
  match Utf8.decode bytes with
  | .error cause => .error (.undecodable cause)
  | .ok t =>
    match Json.read (some digitLimit) (Utf8.unifyLineEnds t) with
    | .error (.malformed cause place) => .error (.malformed p cause place)
    | .error (.number cause) => .error (.number cause)
    | .ok document => (Document.decode document).mapError .document

namespace Host

/-- The signatures that a file describes. -/
def signatures (p : FilePath) (host : Host) : Except LoadError (List Signature) :=
  match host.files.readFile host.workingDirectory p with
  | .error cause => .error (.file cause)
  | .ok bytes => Signature.readAll p bytes

/-- The activity of loading a signature file. -/
def loadActivity : Activity := ⟨.documents, "SignatureLoader.load"⟩

/-- The records of loading a signature file. -/
def loadRecords (p : FilePath) : Except LoadError (List Signature) → List Record
  | .error cause => [loadActivity.started, loadActivity.failed noTime cause.message]
  | .ok signatures => [
      loadActivity.started,
      ⟨.documents, .info,
        "Loaded " ++ Text.ofNat signatures.length ++ " function signature(s) from " ++ p.text⟩,
      loadActivity.completed noTime]

/-- Loads the signatures that a file describes. -/
def loadSignatures (p : FilePath) (host : Host) : Except LoadError (List Signature) × Host :=
  (host.signatures p, host.logAll (loadRecords p (host.signatures p)))

end Host

end SignatureBridge
