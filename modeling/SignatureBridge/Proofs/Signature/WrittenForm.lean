import Mathlib.Data.List.Forall2
import SignatureBridge.Proofs.Signature.Fields

/-!
# The written forms of signatures

A list of signatures has many written forms: the functions may be listed bare or under `functions`,
a member may be left out when the field has the value that stands for it then, a type without
arguments may be a string or an object, and members that the schema does not mention may be added
anywhere. `Document.Writes` is the relation between the signatures and all of these forms. It looks
members up by their names and says nothing about their order.

The decoder finds exactly what is written (`decode_eq_ok_iff`): there is one such lemma for every
kind of part, so that what can come out of a document is known without opening the decoder again.
That decoding undoes every way of writing (`decode_writes`) is one half of it.
-/

namespace SignatureBridge

/-! ### Signatures that documents describe -/

/-- The form takes the value: a numeral an integer or a double, a string a text or nothing. -/
def ConstantForm.admits : ConstantForm → Scalar → Bool
  | .integer, .int _ | .hexadecimal, .int _ | .binary, .int _ => true
  | .double, .double _ => true
  | .text, .text _ | .text, .none => true
  | .bool, .bool _ => true
  | .none, .none => true
  | _, _ => false

/-- A constant whose value fits its form. -/
def Constant.IsWellTyped (c : Constant) : Prop := c.form.admits c.value = true

/-- A parameter with a name, one of the known kinds, and a default that is well typed. -/
structure Parameter.IsWellFormed (p : Parameter) : Prop where
  name : p.name ≠ []
  kind : p.kind ∈ ParameterKind.known
  default : ∀ c, p.default = some c → c.IsWellTyped

/-- A signature with a name and well-formed parameters. -/
structure Signature.IsWellFormed (s : Signature) : Prop where
  name : s.name ≠ []
  parameters : ∀ p ∈ s.parameters, p.IsWellFormed

instance (p : Parameter) : Decidable p.IsWellFormed :=
  decidable_of_iff
    (p.name ≠ [] ∧ p.kind ∈ ParameterKind.known ∧ ∀ c ∈ p.default, c.form.admits c.value = true)
    ⟨fun ⟨name, kind, default⟩ ↦ ⟨name, kind, default⟩, fun h ↦ ⟨h.name, h.kind, h.default⟩⟩

instance (s : Signature) : Decidable s.IsWellFormed :=
  decidable_of_iff (s.name ≠ [] ∧ ∀ p ∈ s.parameters, p.IsWellFormed)
    ⟨fun ⟨name, parameters⟩ ↦ ⟨name, parameters⟩, fun h ↦ ⟨h.name, h.parameters⟩⟩

theorem ParameterKind.ofName?_eq_some_iff {t : Text} {kind : ParameterKind} :
    ofName? t = some kind ↔ kind ∈ known ∧ t = kind.name := by
  constructor
  · intro h
    have hname : kind.name = t := by simpa using List.find?_some h
    exact ⟨List.mem_of_find?_eq_some h, hname.symm⟩
  · rintro ⟨hmem, rfl⟩
    simp only [known, List.mem_cons, List.not_mem_nil, or_false] at hmem
    rcases hmem with rfl | rfl | rfl | rfl <;> rfl

theorem ConstantForm.ofTag?_eq_some_iff {t : Text} {form : ConstantForm} :
    ofTag? t = some form ↔ form ∈ known ∧ t = form.tag := by
  constructor
  · intro h
    have htag : form.tag = t := by simpa using List.find?_some h
    exact ⟨List.mem_of_find?_eq_some h, htag.symm⟩
  · rintro ⟨hmem, rfl⟩
    simp only [known, List.mem_cons, List.not_mem_nil, or_false] at hmem
    rcases hmem with rfl | rfl | rfl | rfl | rfl | rfl | rfl <;> rfl

/-- Only the known forms take a value. -/
theorem ConstantForm.mem_known_of_admits {form : ConstantForm} {s : Scalar}
    (h : form.admits s = true) : form ∈ known := by
  cases form with
  | other tag => exact absurd h (by simp [admits])
  | _ => simp [known]

namespace Document

/-! ### The relation -/

/-- A member is written as its value is, or left out if the field has the value for that. -/
def WritesMember {α : Type} (writes : α → Json → Prop) (absent : α) (name : Text)
    (members : List (Text × Json)) (a : α) : Prop :=
  match Json.member? name members with
  | none => a = absent
  | some value => writes a value

/-- A member that is left out counts as a value that is written for the same thing. -/
theorem writesMember_iff {α : Type} {writes : α → Json → Prop} {absent : α} {blank : Json}
    (hblank : ∀ a, writes a blank ↔ a = absent) {name : Text} {members : List (Text × Json)}
    {a : α} :
    WritesMember writes absent name members a ↔
      writes a ((Json.member? name members).getD blank) := by
  rw [WritesMember]
  cases Json.member? name members with
  | none => exact (hblank a).symm
  | some value => exact Iff.rfl

/-- The written forms of an annotation. -/
inductive WritesAnnotation : Annotation → Json → Prop
  | null : WritesAnnotation .any .null
  | text (name : Text) : WritesAnnotation { name } (.text name)
  | bare {name : Text} {members : List (Text × Json)}
    (hname : Json.member? "name" members = some (.text name))
    (hnone : Json.member? "arguments" members = none) :
    WritesAnnotation { name } (.object members)
  | applied {name : Text} {members : List (Text × Json)} {arguments : List Annotation}
    {items : List Json} (hname : Json.member? "name" members = some (.text name))
    (hitems : Json.member? "arguments" members = some (.array items))
    (h : List.Forall₂ WritesAnnotation arguments items) :
    WritesAnnotation { name, arguments } (.object members)

/-- The written forms of a scalar; a double with the value of an integer may be written as one. -/
inductive WritesScalar : Scalar → Json → Prop
  | none : WritesScalar .none .null
  | bool (b : Bool) : WritesScalar (.bool b) (.bool b)
  | int (n : Int) : WritesScalar (.int n) (.int n)
  | double (x : Binary64) : WritesScalar (.double x) (.double x)
  | integral {n : Int} {x : Binary64} (h : Binary64.ofInt? n = some x) :
    WritesScalar (.double x) (.int n)
  | text (t : Text) : WritesScalar (.text t) (.text t)

/-- The members of an object that writes a constant. -/
structure WritesConstant (c : Constant) (members : List (Text × Json)) : Prop where
  form : Json.member? "type" members = some (.text c.form.tag)
  value : WritesMember WritesScalar .none "value" members c.value

/-- The written forms of a default: null for none, or an object. -/
inductive WritesDefault : Option Constant → Json → Prop
  | none : WritesDefault none .null
  | some {c : Constant} {members : List (Text × Json)} (h : WritesConstant c members) :
    WritesDefault (some c) (.object members)

/-- The members of an object that writes a parameter. -/
structure WritesParameterMembers (p : Parameter) (members : List (Text × Json)) : Prop where
  name : Json.member? "name" members = some (.text p.name)
  kind : WritesMember (fun kind value ↦ value = .text kind.name) .normal "kind" members p.kind
  keywordOnly : WritesMember (fun flag value ↦ value = .bool flag) false "keyword_only" members
    p.keywordOnly
  type : WritesMember WritesAnnotation .any "type" members p.type
  default : WritesMember WritesDefault none "default" members p.default

/-- The written forms of a parameter. -/
inductive WritesParameter (p : Parameter) : Json → Prop
  | object {members : List (Text × Json)} (h : WritesParameterMembers p members) :
    WritesParameter p (.object members)

/-- The written forms of a list of things. -/
inductive WritesItems {α : Type} (writes : α → Json → Prop) (as : List α) : Json → Prop
  | array {items : List Json} (h : List.Forall₂ writes as items) :
    WritesItems writes as (.array items)

/-- The members of an object that writes a signature. -/
structure WritesSignatureMembers (s : Signature) (members : List (Text × Json)) : Prop where
  name : Json.member? "name" members = some (.text s.name)
  parameters : WritesMember (WritesItems WritesParameter) [] "parameters" members s.parameters
  result : WritesMember WritesAnnotation .any "return_type" members s.result

/-- The written forms of a signature. -/
inductive WritesSignature (s : Signature) : Json → Prop
  | object {members : List (Text × Json)} (h : WritesSignatureMembers s members) :
    WritesSignature s (.object members)

/-- **The written forms of a list of signatures**: the bare list, or an object that holds it. -/
inductive Writes (ss : List Signature) : Json → Prop
  | list {items : List Json} (h : List.Forall₂ WritesSignature ss items) :
    Writes ss (.array items)
  | object {members : List (Text × Json)} {items : List Json}
    (hfunctions : Json.member? "functions" members = some (.array items))
    (h : List.Forall₂ WritesSignature ss items) : Writes ss (.object members)

/-! ### Names, kinds and flags -/

theorem decodeName_eq_ok_iff {place : Place} {members : List (Text × Json)} {name : Text} :
    decodeName place members = .ok name ↔
      name ≠ [] ∧ Json.member? "name" members = some (.text name) := by
  rw [decodeName]
  split
  · rename_i c rest hname
    rw [hname]
    constructor
    · intro h
      obtain rfl := Except.ok.inj h
      exact ⟨List.cons_ne_nil c rest, rfl⟩
    · rintro ⟨-, h⟩
      rw [Json.text.inj (Option.some.inj h)]
  · rename_i hother
    refine ⟨fun h ↦ absurd h (by simp [fail]), ?_⟩
    rintro ⟨hne, h⟩
    obtain ⟨c, rest, rfl⟩ := List.exists_cons_of_ne_nil hne
    exact absurd h (hother c rest)

theorem failShowing_ne_ok {α : Type} {place : Place} {value : Json} {cause : Text → Defect}
    {a : α} : failShowing place value cause ≠ .ok a := by
  rw [failShowing]
  split <;> simp [fail]

theorem decodeKind_eq_ok_iff {place : Place} {members : List (Text × Json)}
    {kind : ParameterKind} :
    decodeKind place members = .ok kind ↔ kind ∈ ParameterKind.known ∧
      WritesMember (fun kind value ↦ value = .text kind.name) .normal "kind" members kind := by
  rw [decodeKind, WritesMember]
  rcases Json.member? "kind" members with - | value
  · constructor
    · intro h
      obtain rfl := Except.ok.inj h
      exact ⟨List.mem_cons_self, rfl⟩
    · rintro ⟨-, rfl⟩
      rfl
  · cases value with
    | text t =>
      simp only [Json.text.injEq, ← ParameterKind.ofName?_eq_some_iff]
      cases ParameterKind.ofName? t <;> simp [failShowing_ne_ok]
    | _ => simp [failShowing_ne_ok]

theorem decodeForm_eq_ok_iff {place : Place} {tag : Json} {form : ConstantForm} :
    decodeForm place tag = .ok form ↔ form ∈ ConstantForm.known ∧ tag = .text form.tag := by
  cases tag with
  | text t =>
    simp only [decodeForm, Json.text.injEq, ← ConstantForm.ofTag?_eq_some_iff]
    cases ConstantForm.ofTag? t <;> simp [failShowing_ne_ok]
  | _ => simp [decodeForm, failShowing_ne_ok]

theorem decodeKeywordOnly_eq_ok_iff {place : Place} {members : List (Text × Json)} {flag : Bool} :
    decodeKeywordOnly place members = .ok flag ↔
      WritesMember (fun flag value ↦ value = .bool flag) false "keyword_only" members flag := by
  rw [decodeKeywordOnly, WritesMember]
  rcases Json.member? "keyword_only" members with - | value
  · simp [eq_comm]
  · cases value <;> simp [fail]

/-! ### Lists -/

theorem decodeItems_eq_ok_iff {α : Type} {decode : Place → Json → Decoded α}
    {writes : α → Json → Prop} {items : List Json}
    (h : ∀ item ∈ items, ∀ place a, decode place item = .ok a ↔ writes a item) (place : Place)
    (index : Nat) (as : List α) :
    decodeItems decode place index items = .ok as ↔ List.Forall₂ writes as items := by
  induction items generalizing index as with
  | nil =>
    rw [decodeItems, List.forall₂_nil_right_iff]
    exact ⟨fun hok ↦ (Except.ok.inj hok).symm, fun hnil ↦ hnil ▸ rfl⟩
  | cons item items ih =>
    have hitem := h item List.mem_cons_self
    have hitems := ih fun i hi ↦ h i (List.mem_cons_of_mem item hi)
    rw [decodeItems, List.forall₂_cons_right_iff]
    constructor
    · intro hok
      obtain ⟨a, ha, hok⟩ := Except.bind_eq_ok_iff.1 hok
      obtain ⟨rest, hrest, hok⟩ := Except.bind_eq_ok_iff.1 hok
      exact ⟨a, rest, (hitem _ a).1 ha, (hitems _ rest).1 hrest, (Except.ok.inj hok).symm⟩
    · rintro ⟨a, rest, ha, hrest, rfl⟩
      rw [(hitem _ a).2 ha, (hitems _ rest).2 hrest]
      rfl

theorem writesItems_iff {α : Type} {writes : α → Json → Prop} {as : List α} {j : Json} :
    WritesItems writes as j ↔ ∃ items, j = .array items ∧ List.Forall₂ writes as items := by
  constructor
  · rintro ⟨h⟩
    exact ⟨_, rfl, h⟩
  · rintro ⟨items, rfl, h⟩
    exact .array h

/-- A list that is left out is written like an empty one. -/
theorem writesMember_items_iff {α : Type} {writes : α → Json → Prop} {name : Text}
    {members : List (Text × Json)} {as : List α} :
    WritesMember (WritesItems writes) [] name members as ↔
      ∃ items, (Json.member? name members).getD (.array []) = .array items ∧
        List.Forall₂ writes as items := by
  have hblank : ∀ as, WritesItems writes as (.array []) ↔ as = [] := by
    simp [writesItems_iff]
  rw [writesMember_iff hblank, writesItems_iff]

/-! ### Annotations -/

theorem writesAnnotation_null_iff {a : Annotation} : WritesAnnotation a .null ↔ a = .any :=
  ⟨fun h ↦ by cases h; rfl, fun h ↦ h ▸ .null⟩

/-- An object writes the annotation with the name and the arguments among its members. -/
theorem writesAnnotation_object_iff {a : Annotation} {members : List (Text × Json)} :
    WritesAnnotation a (.object members) ↔ Json.member? "name" members = some (.text a.name) ∧
      WritesMember (WritesItems WritesAnnotation) [] "arguments" members a.arguments := by
  constructor
  · intro h
    cases h with
    | bare hname hnone => exact ⟨hname, by rw [WritesMember, hnone]⟩
    | applied hname hitems h =>
      refine ⟨hname, ?_⟩
      rw [WritesMember, hitems]
      exact .array h
  · obtain ⟨name, arguments⟩ := a
    rintro ⟨hname, harguments⟩
    rw [WritesMember] at harguments
    split at harguments
    · rename_i hnone
      obtain rfl : arguments = [] := harguments
      exact .bare hname hnone
    · rename_i value hvalue
      cases harguments with
      | array h => exact .applied hname hvalue h

/-- The arguments of an annotation are decoded from their member, if its items are from theirs. -/
theorem decodeArguments_eq_ok_iff {members : List (Text × Json)}
    (h : ∀ items, Json.member? "arguments" members = some (.array items) → ∀ item ∈ items,
      ∀ place a, decodeAnnotation place item = .ok a ↔ WritesAnnotation a item)
    (place : Place) (as : List Annotation) :
    decodeArguments place members = .ok as ↔
      WritesMember (WritesItems WritesAnnotation) [] "arguments" members as := by
  rw [decodeArguments_eq, WritesMember]
  rcases hvalue : Json.member? "arguments" members with - | value
  · exact ⟨fun hok ↦ (Except.ok.inj hok).symm, fun hnil ↦ hnil ▸ rfl⟩
  · cases value with
    | array items =>
      simp only [decodeAnnotations_eq, decodeItems_eq_ok_iff (h items hvalue), writesItems_iff]
      simp
    | _ => simp [fail, writesItems_iff]

/-- **An annotation is decoded exactly from its written forms.** -/
theorem decodeAnnotation_eq_ok_iff (place : Place) (j : Json) (a : Annotation) :
    decodeAnnotation place j = .ok a ↔ WritesAnnotation a j := by
  -- only the items of the list of arguments are annotations again
  induction j using Json.inductionOnArguments generalizing place a with
  | leaf j hj =>
    cases j with
    | null =>
      unfold decodeAnnotation
      rw [writesAnnotation_null_iff]
      exact ⟨fun h ↦ (Except.ok.inj h).symm, fun h ↦ h ▸ rfl⟩
    | text name =>
      unfold decodeAnnotation
      exact ⟨fun h ↦ Except.ok.inj h ▸ .text name, fun h ↦ by cases h; rfl⟩
    | object members => exact absurd rfl (hj members)
    | _ => exact ⟨fun h ↦ absurd h (by simp [fail, decodeAnnotation]), fun h ↦ by cases h⟩
  | object members ih =>
    have harguments := decodeArguments_eq_ok_iff (ih "arguments") place
    unfold decodeAnnotation
    rw [writesAnnotation_object_iff]
    split
    · rename_i name hname
      rw [hname]
      constructor
      · intro h
        obtain ⟨as, has, h⟩ := Except.bind_eq_ok_iff.1 h
        obtain rfl := Except.ok.inj h
        exact ⟨rfl, (harguments as).1 has⟩
      · obtain ⟨name', arguments⟩ := a
        rintro ⟨hname, has⟩
        obtain rfl := Json.text.inj (Option.some.inj hname)
        rw [(harguments _).2 has]
        rfl
    · rename_i hother
      exact ⟨fun h ↦ absurd h (by simp [fail]), fun h ↦ absurd h.1 (hother a.name)⟩

theorem decodeAnnotationMember_eq_ok_iff {place : Place} {name : Text}
    {members : List (Text × Json)} {a : Annotation} :
    decodeAnnotationMember place name members = .ok a ↔
      WritesMember WritesAnnotation .any name members a := by
  rw [decodeAnnotationMember, decodeAnnotation_eq_ok_iff,
    writesMember_iff fun _ ↦ writesAnnotation_null_iff]

/-! ### Constants -/

theorem decodeIntAsDouble_eq_ok_iff {place : Place} {n : Int} {s : Scalar} :
    decodeIntAsDouble place n = .ok s ↔ ∃ x, Binary64.ofInt? n = some x ∧ s = .double x := by
  rw [decodeIntAsDouble]
  split
  · rename_i x hx
    simp [hx, eq_comm]
  · rename_i hnone
    rw [hnone]
    split <;> simp [fail]

theorem writesScalar_null_iff {s : Scalar} : WritesScalar s .null ↔ s = .none :=
  ⟨fun h ↦ by cases h; rfl, fun h ↦ h ▸ .none⟩

/-- **A value is decoded exactly from the written forms of the scalars that its form admits.** -/
theorem decodeValue_eq_ok_iff {place : Place} {form : ConstantForm} {value : Json} {s : Scalar} :
    decodeValue place form value = .ok s ↔ form.admits s = true ∧ WritesScalar s value := by
  constructor
  · intro h
    unfold decodeValue at h
    split at h
    -- an integer for a double is converted, and the last case is a value that fits no form
    case h_4 n =>
      obtain ⟨x, hx, rfl⟩ := decodeIntAsDouble_eq_ok_iff.1 h
      exact ⟨rfl, .integral hx⟩
    case h_10 => exact absurd h (by simp [fail])
    all_goals
      obtain rfl := Except.ok.inj h
      exact ⟨rfl, by constructor⟩
  · rintro ⟨hadmits, hwrites⟩
    cases hwrites with
    | integral hx =>
      cases form with
      | double => exact decodeIntAsDouble_eq_ok_iff.2 ⟨_, hx, rfl⟩
      | _ => exact absurd hadmits Bool.false_ne_true
    | _ => cases form <;> first | rfl | exact absurd hadmits Bool.false_ne_true

/-- A member that counts as null when it is left out is a text only if it is there. -/
theorem member?_getD_null_eq_text_iff {name t : Text} {members : List (Text × Json)} :
    (Json.member? name members).getD .null = .text t ↔
      Json.member? name members = some (.text t) := by
  cases Json.member? name members <;> simp

theorem decodeConstant_eq_ok_iff {place : Place} {members : List (Text × Json)} {c : Constant} :
    decodeConstant place (.object members) = .ok c ↔ c.IsWellTyped ∧ WritesConstant c members := by
  simp only [decodeConstant, Except.bind_eq_ok_iff, decodeForm_eq_ok_iff, decodeValue_eq_ok_iff,
    member?_getD_null_eq_text_iff, ← writesMember_iff fun _ ↦ writesScalar_null_iff]
  constructor
  · rintro ⟨form, ⟨-, hform⟩, value, ⟨hadmits, hvalue⟩, hok⟩
    obtain rfl := Except.ok.inj hok
    exact ⟨hadmits, hform, hvalue⟩
  · rintro ⟨hadmits, hform, hvalue⟩
    exact ⟨c.form, ⟨ConstantForm.mem_known_of_admits hadmits, hform⟩, c.value, ⟨hadmits, hvalue⟩,
      rfl⟩

theorem writesDefault_null_iff {c? : Option Constant} : WritesDefault c? .null ↔ c? = none :=
  ⟨fun h ↦ by cases h; rfl, fun h ↦ h ▸ .none⟩

theorem decodeDefault_eq_ok_iff {place : Place} {members : List (Text × Json)}
    {c? : Option Constant} :
    decodeDefault place members = .ok c? ↔ (∀ c, c? = some c → c.IsWellTyped) ∧
      WritesMember WritesDefault none "default" members c? := by
  rw [decodeDefault, writesMember_iff fun _ ↦ writesDefault_null_iff]
  cases (Json.member? "default" members).getD .null with
  | null =>
    constructor
    · intro h
      obtain rfl := Except.ok.inj h
      exact ⟨fun c hc ↦ absurd hc (by simp), .none⟩
    · rintro ⟨-, h⟩
      rw [writesDefault_null_iff.1 h]
  | object members =>
    simp only [Except.map_eq_ok_iff, decodeConstant_eq_ok_iff]
    constructor
    · rintro ⟨c, ⟨htyped, hwrites⟩, rfl⟩
      exact ⟨fun c' hc' ↦ Option.some.inj hc' ▸ htyped, .some hwrites⟩
    · rintro ⟨htyped, h⟩
      cases h with
      | some hwrites => exact ⟨_, ⟨htyped _ rfl, hwrites⟩, rfl⟩
  | _ => exact ⟨fun h ↦ absurd h (by simp [decodeConstant, fail, Except.map]), fun h ↦ by cases h.2⟩

/-! ### Parameters and signatures -/

theorem decodeParameter_eq_ok_iff (j : Json) (place : Place) (p : Parameter) :
    decodeParameter place j = .ok p ↔ p.IsWellFormed ∧ WritesParameter p j := by
  cases j with
  | object members =>
    simp only [decodeParameter, Except.bind_eq_ok_iff, decodeName_eq_ok_iff, decodeKind_eq_ok_iff,
      decodeKeywordOnly_eq_ok_iff, decodeAnnotationMember_eq_ok_iff, decodeDefault_eq_ok_iff]
    constructor
    · rintro ⟨name, ⟨hne, hname⟩, kind, ⟨hknown, hkind⟩, flag, hflag, type, htype, default,
        ⟨htyped, hdefault⟩, hok⟩
      obtain rfl := Except.ok.inj hok
      exact ⟨⟨hne, hknown, htyped⟩, .object ⟨hname, hkind, hflag, htype, hdefault⟩⟩
    · rintro ⟨⟨hne, hknown, htyped⟩, ⟨⟨hname, hkind, hflag, htype, hdefault⟩⟩⟩
      exact ⟨_, ⟨hne, hname⟩, _, ⟨hknown, hkind⟩, _, hflag, _, htype, _, ⟨htyped, hdefault⟩, rfl⟩
  | _ => exact ⟨fun h ↦ absurd h (by simp [decodeParameter, fail]), fun h ↦ by cases h.2⟩

theorem decodeParameters_eq_ok_iff {place : Place} {members : List (Text × Json)}
    {ps : List Parameter} :
    decodeParameters place members = .ok ps ↔ (∀ p ∈ ps, p.IsWellFormed) ∧
      WritesMember (WritesItems WritesParameter) [] "parameters" members ps := by
  rw [decodeParameters, writesMember_items_iff]
  cases (Json.member? "parameters" members).getD (.array []) with
  | array items =>
    rw [decodeItems_eq_ok_iff fun item _ ↦ decodeParameter_eq_ok_iff item, List.forall₂_and_left]
    simp
  | _ => simp [fail]

theorem decodeSignature_eq_ok_iff (j : Json) (place : Place) (s : Signature) :
    decodeSignature place j = .ok s ↔ s.IsWellFormed ∧ WritesSignature s j := by
  cases j with
  | object members =>
    simp only [decodeSignature_object_eq, Except.bind_eq_ok_iff, decodeName_eq_ok_iff,
      decodeParameters_eq_ok_iff, decodeAnnotationMember_eq_ok_iff]
    constructor
    · rintro ⟨name, ⟨hne, hname⟩, ps, ⟨hwf, hps⟩, result, hresult, hok⟩
      obtain rfl := Except.ok.inj hok
      exact ⟨⟨hne, hwf⟩, .object ⟨hname, hps, hresult⟩⟩
    · rintro ⟨⟨hne, hwf⟩, ⟨⟨hname, hps, hresult⟩⟩⟩
      exact ⟨_, ⟨hne, hname⟩, _, ⟨hwf, hps⟩, _, hresult, rfl⟩
  | _ => exact ⟨fun h ↦ absurd h (by simp [decodeSignature, fail]), fun h ↦ by cases h.2⟩

theorem decodeFunctions_eq_ok_iff {place : Place} {j : Json} {ss : List Signature} :
    decodeFunctions place j = .ok ss ↔
      (∀ s ∈ ss, s.IsWellFormed) ∧ WritesItems WritesSignature ss j := by
  cases j with
  | array items =>
    rw [decodeFunctions, decodeItems_eq_ok_iff fun item _ ↦ decodeSignature_eq_ok_iff item,
      List.forall₂_and_left, writesItems_iff]
    simp
  | _ => exact ⟨fun h ↦ absurd h (by simp [decodeFunctions, fail]), fun h ↦ by cases h.2⟩

theorem writes_iff {ss : List Signature} {d : Json} :
    Writes ss d ↔ WritesItems WritesSignature ss (functionsOf d).2 := by
  rw [writesItems_iff]
  constructor
  · rintro (⟨h⟩ | ⟨hfunctions, h⟩)
    · exact ⟨_, functionsOf_eq_array_iff.2 (.inl rfl), h⟩
    · exact ⟨_, functionsOf_eq_array_iff.2 (.inr ⟨_, rfl, hfunctions⟩), h⟩
  · rintro ⟨items, hitems, h⟩
    rcases functionsOf_eq_array_iff.1 hitems with rfl | ⟨members, rfl, hfunctions⟩
    · exact .list h
    · exact .object hfunctions h

/-- **A document is decoded exactly to the well-formed signatures that it writes.** -/
theorem decode_eq_ok_iff {d : Json} {ss : List Signature} :
    decode d = .ok ss ↔ (∀ s ∈ ss, s.IsWellFormed) ∧ Writes ss d := by
  rw [decode_eq, decodeFunctions_eq_ok_iff, writes_iff]

/-! ### The form with every field -/

mutual

/-- An annotation as an object with all of its members. -/
def writtenAnnotation : Annotation → Json
  | ⟨name, arguments⟩ =>
    .object [("name", .text name), ("arguments", .array (writtenAnnotations arguments))]

/-- Annotations as such objects. -/
def writtenAnnotations : List Annotation → List Json
  | [] => []
  | a :: as => writtenAnnotation a :: writtenAnnotations as

end

/-- A scalar as the JSON value of its own kind. -/
def writtenScalar : Scalar → Json
  | .none => .null
  | .bool b => .bool b
  | .int n => .int n
  | .double x => .double x
  | .text t => .text t

/-- A default as an object with all of its members. -/
def writtenDefault : Option Constant → Json
  | none => .null
  | some c => .object [("type", .text c.form.tag), ("value", writtenScalar c.value)]

/-- A parameter as an object with all of its members. -/
def writtenParameter (p : Parameter) : Json :=
  .object [("name", .text p.name), ("kind", .text p.kind.name),
    ("keyword_only", .bool p.keywordOnly), ("type", writtenAnnotation p.type),
    ("default", writtenDefault p.default)]

/-- A signature as an object with all of its members. -/
def writtenSignature (s : Signature) : Json :=
  .object [("name", .text s.name), ("parameters", .array (s.parameters.map writtenParameter)),
    ("return_type", writtenAnnotation s.result)]

/-- The document with every field of every signature. -/
def written (ss : List Signature) : Json :=
  .object [("functions", .array (ss.map writtenSignature))]

mutual

theorem writesAnnotation_written : ∀ a, WritesAnnotation a <| writtenAnnotation a
  | ⟨_, arguments⟩ => .applied rfl rfl (writesAnnotations_written arguments)

theorem writesAnnotations_written :
    ∀ as, List.Forall₂ WritesAnnotation as (writtenAnnotations as)
  | [] => .nil
  | a :: as => .cons (writesAnnotation_written a) (writesAnnotations_written as)

end

theorem writesScalar_written (s : Scalar) : WritesScalar s (writtenScalar s) := by
  cases s <;> constructor

theorem writesDefault_written (c? : Option Constant) : WritesDefault c? (writtenDefault c?) := by
  cases c? with
  | none => exact .none
  | some c => exact .some ⟨rfl, writesScalar_written c.value⟩

theorem writesParameter_written (p : Parameter) : WritesParameter p (writtenParameter p) :=
  .object ⟨rfl, rfl, rfl, writesAnnotation_written p.type, writesDefault_written p.default⟩

/-- Things are written item by item. -/
theorem forall₂_map_of_writes {α : Type} {writes : α → Json → Prop} {write : α → Json}
    (h : ∀ a, writes a (write a)) (as : List α) : List.Forall₂ writes as (as.map write) :=
  List.forall₂_map_right_iff.2 (List.forall₂_same.2 fun a _ ↦ h a)

theorem writesSignature_written (s : Signature) : WritesSignature s (writtenSignature s) :=
  .object ⟨rfl, .array (forall₂_map_of_writes writesParameter_written s.parameters),
    writesAnnotation_written s.result⟩

theorem writes_written (ss : List Signature) : Writes ss (written ss) :=
  .object rfl (forall₂_map_of_writes writesSignature_written ss)

/-! ### Decoding undoes writing -/

/-- **Decoding undoes every way of writing well-formed signatures**, and there is one. -/
theorem decode_writes {ss : List Signature} (hss : ∀ s ∈ ss, s.IsWellFormed) :
    Writes ss (written ss) ∧ ∀ d, Writes ss d → decode d = .ok ss :=
  ⟨writes_written ss, fun _ hd ↦ decode_eq_ok_iff.2 ⟨hss, hd⟩⟩

/-- The signature `f(x, y: dict[str, Any] = 0xff)`. -/
def mixedSignature : Signature where
  name := "f"
  parameters := [{ name := "x" },
    { name := "y", type := ⟨"dict", [{ name := "str" }, .any]⟩,
      default := some ⟨.hexadecimal, .int 255⟩ }]

/-- The signature in a bare list, with members left out, added and out of order, and with types in
each of their forms. -/
def mixedDocument : Json :=
  .array [.object [("doc", .text "some words"), ("return_type", .text "Any"), ("name", .text "f"),
    ("parameters", .array [.object [("name", .text "x"), ("type", .null), ("default", .null)],
      .object [("default", .object [("value", .int 255), ("type", .text "hex_integer")]),
        ("type", .object [("name", .text "dict"),
          ("arguments", .array [.object [("name", .text "str")], .text "Any"])]),
        ("kind", .text "normal"), ("name", .text "y"), ("line", .int 12)]])]]

theorem writes_mixedDocument : Writes [mixedSignature] mixedDocument := by
  refine .list (.cons (.object ⟨rfl, .array (.cons ?_ (.cons ?_ .nil)), .text "Any"⟩) .nil)
  · exact .object ⟨rfl, rfl, rfl, .null, .none⟩
  · have harguments : List.Forall₂ WritesAnnotation [{ name := "str" }, .any]
        [.object [("name", .text "str")], .text "Any"] :=
      .cons (.bare rfl rfl) (.cons (.text "Any") .nil)
    exact .object ⟨rfl, rfl, rfl, .applied rfl rfl harguments, .some ⟨rfl, .int 255⟩⟩

theorem decode_mixedDocument : (∀ s ∈ [mixedSignature], s.IsWellFormed) ∧
    decode mixedDocument = .ok [mixedSignature] := by
  have hss : ∀ s ∈ [mixedSignature], s.IsWellFormed := by decide
  exact ⟨hss, (decode_writes hss).2 mixedDocument writes_mixedDocument⟩

end Document

end SignatureBridge
