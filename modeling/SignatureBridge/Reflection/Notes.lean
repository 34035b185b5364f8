import SignatureBridge.Journal.Timing
import SignatureBridge.Reflection.Parameter

/-!
# What reflection reports

Reflection itself is a function of the signature. What it reports on the way is derived here from
the same signature: an annotation without a C# counterpart, a based integer that had to be written
in decimal, a default of an unknown form, and a required parameter after an optional one. The
reports of a list end with the first parameter that fails.

`Signature.records` is the whole sequence of records for one parameter list, from the start of the
activity to its end.
-/

namespace SignatureBridge.Reflection

open Journal

/-- Something that reflection reports. -/
inductive Note where
  | unmapped (a : Annotation)
  | decimalFallback (radix : Nat) (n : Int)
  | unknownForm (tag : Text)
  | misordered (required optional : Text)
  | reflected (count : Nat)

/-- The record of a note. -/
def Note.record : Note → Record
  | unmapped a => ⟨.types, .debug, "No C# mapping for Python type " ++ a.text ++ ", using PyObject"⟩
  | decimalFallback radix n =>
    ⟨.defaults, .debug,
      "Rendering base-" ++ Text.ofNat radix ++ " default " ++ Text.ofInt n ++ " in decimal"⟩
  | unknownForm tag =>
    ⟨.defaults, .warning, "Unhandled constant type " ++ tag.quoted ++ ", rendering default as null"⟩
  | misordered required optional =>
    ⟨.parameters, .warning,
      "Required parameter '" ++ required ++ "' follows optional parameter '" ++ optional ++ "'"⟩
  | reflected count => ⟨.parameters, .debug, "Reflected " ++ Text.ofNat count ++ " parameter(s)"⟩

/-- The notes on an annotation. -/
def annotationNotes (a : Annotation) : List Note := a.unmapped.map .unmapped

/-- The notes on a default. -/
def defaultNotes (c : Constant) : List Note :=
  match c.form with
  | .other tag => [.unknownForm tag]
  | _ =>
    match c.decimalFallback? with
    | some (radix, n) => [.decimalFallback radix n]
    | none => []

/-- The notes on a parameter. -/
def parameterNotes (p : Parameter) : List Note :=
  match p.typing with
  | .ok (some a) => annotationNotes a ++ (p.effectiveDefault.map defaultNotes).getD []
  | _ => []

/-- The notes on the parameters of a list up to the first one that fails. -/
def entryNotes : List Parameter → List Note
  | [] => []
  | p :: ps =>
    match p.declare with
    | .error _ => parameterNotes p
    | .ok _ => parameterNotes p ++ entryNotes ps

/-- The notes on the order of a parameter list. -/
def orderNotes (ds : ParameterList) : List Note :=
  ds.misordered.map fun (required, optional) ↦ .misordered required optional

/-- The notes on a parameter list; its order is looked at on request. -/
def listNotes (checkOrder : Bool) (ps : List Parameter) : List Note :=
  entryNotes ps ++
    match Parameter.declarations ps with
    | .error _ => []
    | .ok ds => (if checkOrder then orderNotes ds else []) ++ [.reflected ds.length]

/-- The activity of reflecting a parameter list. -/
def listActivity : Activity := ⟨.parameters, "ArgumentReflection.parameter_list_syntax"⟩

/-- The records of reflecting a parameter list. -/
def listRecords (checkOrder : Bool) (ps : List Parameter) : List Record :=
  let last :=
    match Parameter.declarations ps with
    | .error cause => listActivity.failed noTime cause.message
    | .ok _ => listActivity.completed noTime
  listActivity.started :: (listNotes checkOrder ps).map Note.record ++ [last]

end SignatureBridge.Reflection

namespace SignatureBridge

/-- The records of reflecting a signature. -/
def Signature.records (checkOrder : Bool) (s : Signature) : List Journal.Record :=
  Reflection.listRecords checkOrder s.parameters

end SignatureBridge
