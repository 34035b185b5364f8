import SignatureBridge.Json.Value
import SignatureBridge.Signature.Parameter

/-!
# Signature documents

A description of signatures is a JSON value: a list of functions, or an object with such a list
under `functions`. This module states its schema as a decoder. A function is an object with a name,
a list of parameters and the annotation of its result; a parameter has a name, a kind, a flag for
keyword-only, an annotation and a default; an annotation is a string, or an object with a name and a
list of arguments; a default is an object with the tag of its form and a value that fits the form.
What may be left out has a fixed meaning; members that the schema does not mention are ignored.

Decoding goes through a document from left to right and reports the first defect with its place
(`Place`).
-/

namespace SignatureBridge

/-- A place in a document. -/
inductive Place where
  | root (name : Text)
  | field (within : Place) (name : Text)
  | item (within : Place) (index : Nat)
  deriving DecidableEq

/-- The text of a place: `functions[0].parameters[1].name`. -/
def Place.text : Place → Text
  | root name => name
  | field within name => within.text ++ "." ++ name
  | item within index => within.text ++ "[" ++ Text.ofNat index ++ "]"

/-- What is wrong at a place of a document. -/
inductive Defect where
  | noFunctionList
  | noObject
  | noName
  | noList
  | unknownKind (shown : Text)
  | noTruthValue
  | noType
  | noConstant
  | unknownForm (shown : Text)
  | unfitValue (typeName : Text) (form : ConstantForm)
  | beyondDouble (n : Int)
  deriving DecidableEq

/-- The wording of a defect. -/
def Defect.message : Defect → Text
  | noFunctionList => "expected a list of functions"
  | noObject => "expected an object"
  | noName => "expected a non-empty string"
  | noList => "expected a list"
  | unknownKind shown => "unknown parameter kind " ++ shown
  | noTruthValue => "expected a boolean"
  | noType => "expected a type name or an object with a 'name'"
  | noConstant => "expected an object with a 'type'"
  | unknownForm shown => "unknown constant type " ++ shown
  | unfitValue typeName form => typeName ++ " is not valid for " ++ form.tag
  | beyondDouble n => Text.ofInt n ++ " is too large for a float"

/-- Why a JSON value is no signature document. -/
inductive DocumentError where
  | defect (place : Place) (cause : Defect)
  /-- The message for a defect would have to show an integer that is too long to write. -/
  | number (cause : NumberError)
  deriving DecidableEq

/-- The wording of the cause. -/
def DocumentError.message : DocumentError → Text
  | defect place cause => place.text ++ ": " ++ cause.message
  | number cause => cause.message

namespace Document

/-- The outcome of decoding a part of a document. -/
abbrev Decoded := Except DocumentError

/-- Fails at a place. -/
def fail {α : Type} (place : Place) (cause : Defect) : Decoded α := .error (.defect place cause)

/-- Fails at a place with a defect that shows a value. -/
def failShowing {α : Type} (place : Place) (value : Json) (cause : Text → Defect) : Decoded α :=
  match value.shown with
  | .ok shown => fail place (cause shown)
  | .error e => .error (.number e)

/-- Decodes the items of a list one after the other, each at its place. -/
def decodeItems {α : Type} (decode : Place → Json → Decoded α) (place : Place) :
    Nat → List Json → Decoded (List α)
  | _, [] => .ok []
  | index, item :: items => do
    return (← decode (.item place index) item) :: (← decodeItems decode place (index + 1) items)

/-- The name of an object's subject, which must not be empty. -/
def decodeName (place : Place) (members : List (Text × Json)) : Decoded Text :=
  match Json.member? "name" members with
  | some (.text (c :: name)) => .ok (c :: name)
  | _ => fail (.field place "name") .noName

mutual

/-- Decodes an annotation; null is the open one. -/
def decodeAnnotation (place : Place) : Json → Decoded Annotation
  | .null => .ok .any
  | .text name => .ok { name }
  | .object members => do
    match Json.member? "name" members with
    | some (.text name) => return { name, arguments := ← decodeArguments place members }
    | _ => fail place .noType
  | _ => fail place .noType

/-- Decodes the arguments among the members of an annotation: those of the first member of that
name. -/
def decodeArguments (place : Place) : List (Text × Json) → Decoded (List Annotation)
  | [] => .ok []
  | (name, value) :: members =>
    if name = "arguments" then
      match value with
      | .array items => decodeAnnotations (.field place "arguments") 0 items
      | _ => fail (.field place "arguments") .noList
    else decodeArguments place members

/-- Decodes annotations one after the other. -/
def decodeAnnotations (place : Place) (index : Nat) : List Json → Decoded (List Annotation)
  | [] => .ok []
  | item :: items => do
    return (← decodeAnnotation (.item place index) item) ::
      (← decodeAnnotations place (index + 1) items)

end

/-- The annotation of a member, the open one when the member is left out. -/
def decodeAnnotationMember (place : Place) (name : Text) (members : List (Text × Json)) :
    Decoded Annotation :=
  decodeAnnotation (.field place name) ((Json.member? name members).getD .null)

/-- The double of an integer, which has to be finite. -/
def decodeIntAsDouble (place : Place) (n : Int) : Decoded Scalar :=
  match Binary64.ofInt? n with
  | some x => .ok (.double x)
  | none =>
    if n.natAbs < Nat.pow 10 digitLimit then fail (.field place "value") (.beyondDouble n)
    else .error (.number .writingLimit)

/-- Decodes the value of a default, which has to fit its form. A truth value is no integer. -/
def decodeValue (place : Place) (form : ConstantForm) (value : Json) : Decoded Scalar :=
  match form, value with
  | .integer, .int n | .hexadecimal, .int n | .binary, .int n => .ok (.int n)
  | .double, .int n => decodeIntAsDouble place n
  | .double, .double x => .ok (.double x)
  | .text, .text t => .ok (.text t)
  | .text, .null | .none, .null => .ok .none
  | .bool, .bool b => .ok (.bool b)
  | form, value => fail (.field place "value") (.unfitValue value.typeName form)

/-- Decodes the form of a default from its tag. -/
def decodeForm (place : Place) (tag : Json) : Decoded ConstantForm :=
  let known? : Option ConstantForm :=
    match tag with
    | .text t => ConstantForm.ofTag? t
    | _ => none
  match known? with
  | some form => .ok form
  | none => failShowing (.field place "type") tag .unknownForm

/-- Decodes a default. -/
def decodeConstant (place : Place) : Json → Decoded Constant
  | .object members => do
    let form ← decodeForm place ((Json.member? "type" members).getD .null)
    let value ← decodeValue place form ((Json.member? "value" members).getD .null)
    return { form, value }
  | _ => fail place .noConstant

/-- The default among the members of a parameter; null counts as none. -/
def decodeDefault (place : Place) (members : List (Text × Json)) : Decoded (Option Constant) :=
  match (Json.member? "default" members).getD .null with
  | .null => .ok none
  | value => (decodeConstant (.field place "default") value).map some

/-- The kind among the members of a parameter. -/
def decodeKind (place : Place) (members : List (Text × Json)) : Decoded ParameterKind :=
  match Json.member? "kind" members with
  | none => .ok .normal
  | some value =>
    let known? : Option ParameterKind :=
      match value with
      | .text t => ParameterKind.ofName? t
      | _ => none
    match known? with
    | some kind => .ok kind
    | none => failShowing (.field place "kind") value .unknownKind

/-- The flag for keyword-only among the members of a parameter. -/
def decodeKeywordOnly (place : Place) (members : List (Text × Json)) : Decoded Bool :=
  match Json.member? "keyword_only" members with
  | none => .ok false
  | some (.bool b) => .ok b
  | some _ => fail (.field place "keyword_only") .noTruthValue

/-- Decodes a parameter. -/
def decodeParameter (place : Place) : Json → Decoded Parameter
  | .object members => do
    let name ← decodeName place members
    let kind ← decodeKind place members
    let keywordOnly ← decodeKeywordOnly place members
    let type ← decodeAnnotationMember place "type" members
    let default ← decodeDefault place members
    return { name, kind, type, default, keywordOnly }
  | _ => fail place .noObject

/-- Decodes a function. -/
def decodeSignature (place : Place) : Json → Decoded Signature
  | .object members => do
    let name ← decodeName place members
    let items ←
      match (Json.member? "parameters" members).getD (.array []) with
      | .array items => .ok items
      | _ => fail (.field place "parameters") .noList
    let parameters ← decodeItems decodeParameter (.field place "parameters") 0 items
    let result ← decodeAnnotationMember place "return_type" members
    return { name, parameters, result }
  | _ => fail place .noObject

/-- Decodes the functions listed at a place. -/
def decodeFunctions (place : Place) : Json → Decoded (List Signature)
  | .array items => decodeItems decodeSignature place 0 items
  | _ => fail place .noFunctionList

/-- Decodes a whole document. -/
def decode : Json → Decoded (List Signature)
  | .object members =>
    decodeFunctions (.root "functions") ((Json.member? "functions" members).getD .null)
  | document => decodeFunctions (.root "<root>") document

end Document

end SignatureBridge
