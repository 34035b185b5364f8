import Mathlib.Data.List.Basic
import SignatureBridge.Proofs.Json.IntegerSize
import SignatureBridge.Signature.Document

/-!
# Decoding field by field

What the results on signature documents need to know of the decoder's recursion. An annotation is
decoded along the list of its members, so that the recursion is on the data; read as a look-up, it
decodes the member `arguments` if there is one (`decodeArguments_eq`), and its items like those of
any other list (`decodeAnnotations_eq`). `Json.inductionOnArguments` is the induction that belongs
to it: from the items of an object's lists to the object. The parameters of a function are a field
like the others (`decodeSignature_object_eq`), and the two forms of a document differ only in where
the functions are (`decode_eq`).
-/

namespace SignatureBridge

namespace Json

theorem member?_cons (name : Text) (member : Text × Json) (members : List (Text × Json)) :
    member? name (member :: members) =
      if member.1 = name then some member.2 else member? name members := by
  rw [member?, List.find?_cons]
  by_cases h : member.1 = name
  · simp [h]
  · simp [h, member?]

/-- The items of a list among the members of an object are smaller than the object. -/
theorem sizeOf_lt_of_mem_member {members : List (Text × Json)} {name : Text} {items : List Json}
    (hmember : member? name members = some (.array items)) {item : Json} (hitem : item ∈ items) :
    sizeOf item < sizeOf (Json.object members) := by
  have hmem := List.sizeOf_lt_of_mem (mem_of_member? hmember)
  have hlt := List.sizeOf_lt_of_mem hitem
  simp only [Prod.mk.sizeOf_spec, array.sizeOf_spec, object.sizeOf_spec] at *
  omega

/-- Induction on a value through the lists among the members of objects. -/
theorem inductionOnArguments {motive : Json → Prop}
    (leaf : ∀ j, (∀ members, j ≠ .object members) → motive j)
    (object : ∀ members, (∀ name items, member? name members = some (.array items) →
      ∀ item ∈ items, motive item) → motive (.object members))
    (j : Json) : motive j := by
  induction h : sizeOf j using Nat.strongRecOn generalizing j with
  | ind size ih =>
    subst h
    cases j with
    | object members =>
      refine object members fun name items hmember item hitem ↦ ?_
      exact ih _ (sizeOf_lt_of_mem_member hmember hitem) item rfl
    | _ => exact leaf _ (by simp)

end Json

namespace Document

/-- The arguments of an annotation are looked up among its members. -/
theorem decodeArguments_eq (place : Place) (members : List (Text × Json)) :
    decodeArguments place members =
      match Json.member? "arguments" members with
      | none => .ok []
      | some (.array items) => decodeAnnotations (.field place "arguments") 0 items
      | some _ => fail (.field place "arguments") .noList := by
  induction members with
  | nil => rw [decodeArguments]; rfl
  | cons member members ih =>
    obtain ⟨name, value⟩ := member
    unfold decodeArguments
    rw [Json.member?_cons]
    by_cases h : name = "arguments"
    · rw [if_pos h, if_pos h]
      cases value <;> rfl
    · rw [if_neg h, if_neg h, ih]

/-- Annotations in a list are decoded as the items of any list are. -/
theorem decodeAnnotations_eq (place : Place) (index : Nat) (items : List Json) :
    decodeAnnotations place index items = decodeItems decodeAnnotation place index items := by
  induction items generalizing index with
  | nil => rw [decodeAnnotations, decodeItems]
  | cons item items ih => rw [decodeAnnotations, decodeItems, ih]

/-- The parameters among the members of a function. -/
def decodeParameters (place : Place) (members : List (Text × Json)) : Decoded (List Parameter) :=
  match (Json.member? "parameters" members).getD (.array []) with
  | .array items => decodeItems decodeParameter (.field place "parameters") 0 items
  | _ => fail (.field place "parameters") .noList

/-- A function is decoded field by field, its parameters as one of the fields. -/
theorem decodeSignature_object_eq (place : Place) (members : List (Text × Json)) :
    decodeSignature place (.object members) = do
      let name ← decodeName place members
      let parameters ← decodeParameters place members
      let result ← decodeAnnotationMember place "return_type" members
      return { name, parameters, result } := by
  rw [decodeSignature, decodeParameters]
  cases (Json.member? "parameters" members).getD (.array []) <;> rfl

/-- Where a document lists its functions, and what stands there. -/
def functionsOf : Json → Place × Json
  | .object members => (.root "functions", (Json.member? "functions" members).getD .null)
  | document => (.root "<root>", document)

theorem decode_eq (d : Json) :
    decode d = decodeFunctions (functionsOf d).1 (functionsOf d).2 := by
  cases d <;> rfl

theorem withinLimit_functionsOf {d : Json} (h : d.WithinLimit) :
    (functionsOf d).2.WithinLimit := by
  cases d with
  | object members => exact h.memberOrNull "functions"
  | _ => exact h

/-- The functions are listed under their name in an object, or make up the document. -/
theorem functionsOf_eq_array_iff {d : Json} {items : List Json} :
    (functionsOf d).2 = .array items ↔ d = .array items ∨
      ∃ members, d = .object members ∧
        Json.member? "functions" members = some (.array items) := by
  cases d with
  | object members => cases h : Json.member? "functions" members <;> simp [functionsOf, h]
  | _ => simp [functionsOf]

end Document

end SignatureBridge
