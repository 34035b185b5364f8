import SignatureBridge.Proofs.Declaration.IntegerTyping
import SignatureBridge.Proofs.Reflection.Declaring
import SignatureBridge.Proofs.Signature.WrittenForm
import SignatureBridge.Reflection.Notes

/-!
# What fails on loaded signatures

A signature that was decoded has nothing that reflection does not know: its kinds and forms are the
known ones and every value fits its form. So the conversions that could fail on other values do not
fail, and one cause is left: an integer default that does not fit 64 bits. `Signature.IsLoadable` is
what decoding establishes, and `Signature.reflect_eq_error_iff` what follows for a whole parameter
list, by way of one constant and one parameter.

The limit on the digits of integers matters here once more: the message for such a default shows the
integer.
-/

namespace SignatureBridge

/-! ### Loadable signatures -/

/-- A constant as decoding gives it: well typed, and with no integer too long to be shown. -/
structure Constant.IsLoadable (c : Constant) : Prop where
  wellTyped : c.IsWellTyped
  bounded : ∀ n, c.value = .int n → n.natAbs < Nat.pow 10 digitLimit

/-- A parameter as decoding gives it. -/
structure Parameter.IsLoadable (p : Parameter) : Prop where
  kind : p.kind ∈ ParameterKind.known
  default : ∀ c, p.default = some c → c.IsLoadable

/-- A signature as decoding gives it. -/
def Signature.IsLoadable (s : Signature) : Prop := ∀ p ∈ s.parameters, p.IsLoadable

namespace Document

theorem exists_mem_of_forall₂ {α β : Type} {R : α → β → Prop} {as : List α} {bs : List β}
    (h : List.Forall₂ R as bs) : ∀ a ∈ as, ∃ b ∈ bs, R a b := by
  induction h with
  | nil => exact fun a ha ↦ absurd ha List.not_mem_nil
  | cons hab _ ih =>
    intro a ha
    rcases List.mem_cons.1 ha with rfl | ha
    · exact ⟨_, List.mem_cons_self, hab⟩
    · obtain ⟨b, hb, hR⟩ := ih a ha
      exact ⟨b, List.mem_cons_of_mem _ hb, hR⟩

theorem bounded_of_writesDefault {c : Constant} {j : Json} (h : WritesDefault (some c) j)
    (hlimit : j.WithinLimit) (n : Int) (hn : c.value = .int n) :
    n.natAbs < Nat.pow 10 digitLimit := by
  obtain - | @⟨_, members, h⟩ := h
  have hvalue := (writesMember_iff fun _ ↦ writesScalar_null_iff).1 h.value
  have hmember := hlimit.memberOrNull "value"
  rw [hn] at hvalue
  generalize (Json.member? "value" members).getD .null = value at hvalue hmember
  cases hvalue with
  | int => exact Json.withinLimit_int.1 hmember

theorem isLoadable_of_writesParameter {p : Parameter} {j : Json} (hp : p.IsWellFormed)
    (h : WritesParameter p j) (hlimit : j.WithinLimit) : p.IsLoadable := by
  obtain @⟨members, h⟩ := h
  refine ⟨hp.kind, fun c hc ↦ ⟨hp.default c hc, ?_⟩⟩
  have hdefault := h.default
  rw [WritesMember, hc] at hdefault
  split at hdefault
  · exact absurd hdefault (by simp)
  · rename_i value hvalue
    exact bounded_of_writesDefault hdefault (hlimit.member hvalue)

theorem isLoadable_of_writesSignature {s : Signature} {j : Json} (hs : s.IsWellFormed)
    (h : WritesSignature s j) (hlimit : j.WithinLimit) : s.IsLoadable := by
  obtain @⟨members, h⟩ := h
  have hparameters := h.parameters
  intro p hp
  rw [WritesMember] at hparameters
  split at hparameters
  · exact absurd hp (by simp [hparameters])
  · rename_i value hvalue
    obtain ⟨items, rfl, hitems⟩ := writesItems_iff.1 hparameters
    obtain ⟨item, hitem, hwrites⟩ := exists_mem_of_forall₂ hitems p hp
    exact isLoadable_of_writesParameter (hs.parameters p hp) hwrites
      (Json.withinLimit_array.1 (hlimit.member hvalue) item hitem)

/-- **Decoding gives loadable signatures.** -/
theorem isLoadable_of_decode {d : Json} (hlimit : d.WithinLimit) {ss : List Signature}
    (h : decode d = .ok ss) : ∀ s ∈ ss, s.IsLoadable := by
  obtain ⟨hwf, hwrites⟩ := decode_eq_ok_iff.1 h
  intro s hs
  obtain ⟨items, hvalue, hitems⟩ := writesItems_iff.1 (writes_iff.1 hwrites)
  obtain ⟨item, hitem, hwrites⟩ := exists_mem_of_forall₂ hitems s hs
  have hitems := Json.withinLimit_array.1 (hvalue ▸ withinLimit_functionsOf hlimit)
  exact isLoadable_of_writesSignature (hwf s hs) hwrites (hitems item hitem)

end Document

/-! ### One default -/

/-- A default that is an integer beyond 64 bits, in one of the three forms for integers. -/
structure Constant.Overflows (c : Constant) (n : Int) : Prop where
  form : c.form = .integer ∨ c.form = .hexadecimal ∨ c.form = .binary
  value : c.value = .int n
  range : ¬ (-9223372036854775808 ≤ n ∧ n ≤ 9223372036854775807)

namespace Constant

theorem exists_base {form : ConstantForm}
    (h : form = .integer ∨ form = .hexadecimal ∨ form = .binary) :
    ∃ base, (form, base) ∈ integerForms := by
  rcases h with rfl | rfl | rfl
  · exact ⟨.decimal, by simp [integerForms]⟩
  · exact ⟨.hexadecimal, by simp [integerForms]⟩
  · exact ⟨.binary, by simp [integerForms]⟩

theorem Overflows.reflect_eq {c : Constant} {n : Int} (h : c.Overflows n) (hc : c.IsLoadable) :
    c.reflect = .error (.outOfRange n) := by
  obtain ⟨form, value⟩ := c
  obtain ⟨hform, rfl, hrange⟩ := h
  obtain ⟨base, hbase⟩ := exists_base hform
  exact reflect_of_not_fitsLong hbase (mt fitsLong_iff.1 hrange) (hc.bounded n rfl)

/-- An integer that is not beyond 64 bits has a literal, and so has anything that is no integer. -/
theorem IsLoadable.exists_reflect {c : Constant} (hc : c.IsLoadable)
    (h : ∀ n, ¬ c.Overflows n) : ∃ rendered, c.reflect = .ok rendered := by
  obtain ⟨form, value⟩ := c
  have hinteger : ∀ n, value = .int n → (form = .integer ∨ form = .hexadecimal ∨ form = .binary) →
      ∃ rendered, reflect { form, value } = .ok rendered := by
    rintro n rfl hform
    obtain ⟨base, hbase⟩ := exists_base hform
    have hrange : fitsLong n = true := fitsLong_iff.2 (by_contra fun hn ↦ h n ⟨hform, rfl, hn⟩)
    obtain ⟨literal, type, hreflect, -⟩ := reflect_of_mem_integerForms hbase hrange
    exact ⟨_, hreflect⟩
  have hadmits : form.admits value = true := hc.wellTyped
  cases form <;> cases value <;> first
    | exact absurd hadmits Bool.false_ne_true
    | exact hinteger _ rfl (by simp)
    | exact ⟨_, rfl⟩

end Constant

/-! ### One parameter -/

/-- The parameter is no bare slash and its default is an integer beyond 64 bits. -/
def Parameter.Overflows (p : Parameter) (n : Int) : Prop :=
  p.kind ≠ .positionalOnlyMarker ∧ ∃ c, p.default = some c ∧ c.Overflows n

namespace Parameter

theorem exists_typing {p : Parameter} (hp : p.IsLoadable) (hslash : p.isSlash = false) :
    ∃ a, p.typing = .ok (some a) := by
  have hkind := hp.kind
  rw [isSlash, decide_eq_false_iff_not] at hslash
  rw [typing]
  cases hk : p.kind with
  | positionalOnlyMarker => exact absurd hk hslash
  | other name => exact absurd (hk ▸ hkind) (by simp [ParameterKind.known])
  | _ => exact ⟨_, rfl⟩

theorem IsLoadable.exists_declare {p : Parameter} (hp : p.IsLoadable)
    (h : ∀ n, ¬ p.Overflows n) : ∃ declared, p.declare = .ok declared := by
  rcases hslash : p.isSlash with - | -
  · obtain ⟨a, htyping⟩ := exists_typing hp hslash
    have hdefault : ∀ c, p.effectiveDefault = some c → ∃ rendered, c.reflect = .ok rendered := by
      intro c hc
      rcases effectiveDefault_eq_some hc with hdefault | rfl
      · refine (hp.default c hdefault).exists_reflect fun n hover ↦ h n ⟨?_, c, hdefault, hover⟩
        exact of_decide_eq_false hslash
      · exact ⟨_, rfl⟩
    obtain ⟨d, hd⟩ := declare_eq_ok htyping hdefault
    exact ⟨some d, hd⟩
  · exact ⟨none, declare_eq_ok_none_iff.2 hslash⟩

/-- **A loadable parameter fails exactly if its default is an integer beyond 64 bits.** -/
theorem IsLoadable.declare_eq_error_iff {p : Parameter} (hp : p.IsLoadable)
    {cause : ReflectError} :
    p.declare = .error cause ↔ ∃ n, p.Overflows n ∧ cause = .default (.outOfRange n) := by
  have hfails : ∀ n, p.Overflows n → p.declare = .error (.default (.outOfRange n)) := by
    rintro n ⟨hslash, c, hdefault, hover⟩
    obtain ⟨a, htyping⟩ := exists_typing hp (decide_eq_false hslash)
    exact declare_eq_error htyping (effectiveDefault_of_default hdefault)
      (hover.reflect_eq (hp.default c hdefault))
  constructor
  · intro h
    obtain ⟨n, hover⟩ : ∃ n, p.Overflows n := by
      by_contra hnone
      exact Except.not_exists_of_error h (hp.exists_declare fun n hover ↦ hnone ⟨n, hover⟩)
    exact ⟨n, hover, Except.error.inj (h.symm.trans (hfails n hover))⟩
  · rintro ⟨n, hover, rfl⟩
    exact hfails n hover

theorem IsLoadable.exists_declare_iff {p : Parameter} (hp : p.IsLoadable) :
    (∃ declared, p.declare = .ok declared) ↔ ∀ n, ¬ p.Overflows n := by
  refine ⟨?_, hp.exists_declare⟩
  rintro ⟨declared, hdeclared⟩ n hover
  have herror := hp.declare_eq_error_iff.2 ⟨n, hover, rfl⟩
  exact absurd (hdeclared.symm.trans herror) (by simp)

end Parameter

/-! ### One signature -/

/-- **A loadable signature fails exactly at its first default beyond 64 bits.** -/
theorem Signature.IsLoadable.reflect_eq_error_iff {s : Signature} (hs : s.IsLoadable)
    {cause : ReflectError} :
    s.reflect = .error cause ↔ ∃ before p n after, s.parameters = before ++ p :: after ∧
      (∀ q ∈ before, ∀ m, ¬ q.Overflows m) ∧ p.Overflows n ∧
      cause = .default (.outOfRange n) := by
  rw [reflect, Except.map_eq_error_iff, Parameter.declarations_eq_error_iff]
  constructor
  · rintro ⟨before, p, after, hsplit, hbefore, hp⟩
    have hload : ∀ q ∈ before ++ p :: after, q.IsLoadable := hsplit ▸ hs
    obtain ⟨n, hover, hcause⟩ := (hload p (by simp)).declare_eq_error_iff.1 hp
    refine ⟨before, p, n, after, hsplit, fun q hq ↦ ?_, hover, hcause⟩
    exact (hload q (List.mem_append_left _ hq)).exists_declare_iff.1 (hbefore q hq)
  · rintro ⟨before, p, n, after, hsplit, hbefore, hover, hcause⟩
    have hload : ∀ q ∈ before ++ p :: after, q.IsLoadable := hsplit ▸ hs
    refine ⟨before, p, after, hsplit, fun q hq ↦ ?_, ?_⟩
    · exact (hload q (List.mem_append_left _ hq)).exists_declare_iff.2 (hbefore q hq)
    · exact (hload p (by simp)).declare_eq_error_iff.2 ⟨n, hover, hcause⟩

/-- A loadable signature fails if any of its defaults is an integer beyond 64 bits. -/
theorem Signature.IsLoadable.exists_error_iff {s : Signature} (hs : s.IsLoadable) :
    (∃ cause, s.reflect = .error cause) ↔ ∃ p ∈ s.parameters, ∃ n, p.Overflows n := by
  simp only [hs.reflect_eq_error_iff]
  constructor
  · rintro ⟨-, before, p, n, after, hsplit, -, hover, -⟩
    exact ⟨p, by simp [hsplit], n, hover⟩
  · rintro ⟨p, hp, hover⟩
    classical
    have hfound : (s.parameters.find? fun q ↦ decide (∃ n, q.Overflows n)).isSome :=
      List.find?_isSome.2 ⟨p, hp, decide_eq_true hover⟩
    obtain ⟨q, hq⟩ := Option.isSome_iff_exists.1 hfound
    obtain ⟨hover, before, after, hsplit, hbefore⟩ := List.find?_eq_some_iff_append.1 hq
    obtain ⟨n, hover⟩ := of_decide_eq_true hover
    refine ⟨_, before, q, n, after, hsplit, fun r hr m hm ↦ ?_, hover, rfl⟩
    exact absurd (hbefore r hr) (by simpa using ⟨m, hm⟩)

/-! ### Records -/

namespace Reflection

theorem ne_unknownForm_of_mem_defaultNotes {c : Constant} (hc : c.IsLoadable) :
    ∀ note ∈ defaultNotes c, ∀ tag, note ≠ .unknownForm tag := by
  intro note hnote tag
  rw [defaultNotes] at hnote
  split at hnote
  · rename_i tag' hform
    have hknown := ConstantForm.mem_known_of_admits hc.wellTyped
    exact absurd (hform ▸ hknown) (by simp [ConstantForm.known])
  · split at hnote
    · rw [List.mem_singleton.1 hnote]
      simp
    · exact absurd hnote List.not_mem_nil

theorem ne_unknownForm_of_mem_parameterNotes {p : Parameter} (hp : p.IsLoadable) :
    ∀ note ∈ parameterNotes p, ∀ tag, note ≠ .unknownForm tag := by
  intro note hnote tag
  rw [parameterNotes] at hnote
  split at hnote
  · rcases List.mem_append.1 hnote with hnote | hnote
    · obtain ⟨a, -, rfl⟩ := List.mem_map.1 hnote
      simp
    · rcases hdefault : p.effectiveDefault with - | c
      · exact absurd (hdefault ▸ hnote) List.not_mem_nil
      · rw [hdefault] at hnote
        rcases Parameter.effectiveDefault_eq_some hdefault with hc | rfl
        · exact ne_unknownForm_of_mem_defaultNotes (hp.default c hc) note hnote tag
        · exact absurd hnote List.not_mem_nil
  · exact absurd hnote List.not_mem_nil

theorem ne_unknownForm_of_mem_entryNotes {ps : List Parameter} (hps : ∀ p ∈ ps, p.IsLoadable) :
    ∀ note ∈ entryNotes ps, ∀ tag, note ≠ .unknownForm tag := by
  induction ps with
  | nil => exact fun note hnote ↦ absurd hnote List.not_mem_nil
  | cons p ps ih =>
    intro note hnote
    have hp := ne_unknownForm_of_mem_parameterNotes (hps p List.mem_cons_self) note
    rw [entryNotes] at hnote
    split at hnote
    · exact hp hnote
    · rcases List.mem_append.1 hnote with hnote | hnote
      · exact hp hnote
      · exact ih (fun q hq ↦ hps q (List.mem_cons_of_mem p hq)) note hnote

theorem ne_unknownForm_of_mem_listNotes {checkOrder : Bool} {ps : List Parameter}
    (hps : ∀ p ∈ ps, p.IsLoadable) :
    ∀ note ∈ listNotes checkOrder ps, ∀ tag, note ≠ .unknownForm tag := by
  intro note hnote tag
  rw [listNotes] at hnote
  rcases List.mem_append.1 hnote with hnote | hnote
  · exact ne_unknownForm_of_mem_entryNotes hps note hnote tag
  · split at hnote
    · exact absurd hnote List.not_mem_nil
    · rcases List.mem_append.1 hnote with hnote | hnote
      · split at hnote
        · obtain ⟨names, -, rfl⟩ := List.mem_map.1 hnote
          simp
        · exact absurd hnote List.not_mem_nil
      · rw [List.mem_singleton.1 hnote]
        simp

/-- Only a note on an unknown form is a warning about a default. -/
theorem level_ne_warning_of_ne_unknownForm {note : Note} (h : ∀ tag, note ≠ .unknownForm tag)
    (horigin : note.record.origin = .defaults) : note.record.level ≠ .warning := by
  cases note with
  | unknownForm tag => exact absurd rfl (h tag)
  | decimalFallback radix n => simp [Note.record]
  | _ => exact absurd horigin (by simp [Note.record])

end Reflection

/-- **Reflecting a loadable signature never warns about a default.** -/
theorem Signature.IsLoadable.level_ne_warning {s : Signature} (hs : s.IsLoadable)
    (checkOrder : Bool) :
    ∀ r ∈ s.records checkOrder, r.origin = .defaults → r.level ≠ .warning := by
  intro r hr horigin
  rw [records, Reflection.listRecords] at hr
  rcases List.mem_append.1 hr with hr | hr
  · rcases List.mem_cons.1 hr with rfl | hr
    · exact absurd horigin (by decide)
    · obtain ⟨note, hnote, rfl⟩ := List.mem_map.1 hr
      exact Reflection.level_ne_warning_of_ne_unknownForm
        (Reflection.ne_unknownForm_of_mem_listNotes hs note hnote) horigin
  · rw [List.mem_singleton.1 hr] at horigin
    split at horigin
    · exact absurd horigin (by simp [Journal.Activity.failed, Reflection.listActivity])
    · exact absurd horigin (by decide)

/-! ### Signatures of a document -/

/-- **Reflecting a decoded signature fails exactly if some entry that is no bare slash has an
integer default beyond 64 bits.** The first one of them decides the message, the batch takes note of
it and goes on, and no default has a form that reflection does not know. -/
theorem Document.reflect_decoded {d : Json} (hlimit : d.WithinLimit) {ss : List Signature}
    (hdecode : decode d = .ok ss) {s : Signature} (hs : s ∈ ss) :
    ((∃ cause, s.reflect = .error cause) ↔ ∃ p ∈ s.parameters, ∃ n, p.Overflows n) ∧
      (∀ cause, s.reflect = .error cause → ∃ before p n after,
        s.parameters = before ++ p :: after ∧ (∀ q ∈ before, ∀ m, ¬ q.Overflows m) ∧
        p.Overflows n ∧ cause.category = "OverflowError" ∧ cause.isExpected = true ∧
        cause.message = "Integer default " ++ Text.ofInt n ++ " does not fit in a C# long") ∧
      ∀ checkOrder, ∀ r ∈ s.records checkOrder, r.origin = .defaults → r.level ≠ .warning := by
  have hload := isLoadable_of_decode hlimit hdecode s hs
  refine ⟨hload.exists_error_iff, fun cause hcause ↦ ?_, hload.level_ne_warning⟩
  obtain ⟨before, p, n, after, hsplit, hbefore, hover, rfl⟩ := hload.reflect_eq_error_iff.1 hcause
  exact ⟨before, p, n, after, hsplit, hbefore, hover, rfl, rfl, rfl⟩

/-- A function with a default on its bare slash, a good default, and one beyond 64 bits. -/
def Signature.overflowing : Signature where
  name := "f"
  parameters := [
    { name := "/", kind := .positionalOnlyMarker,
      default := some ⟨.integer, .int 9223372036854775808⟩ },
    { name := "a", default := some ⟨.binary, .int 7⟩ },
    { name := "b", default := some ⟨.hexadecimal, .int (-9223372036854775809)⟩ }]

theorem Document.reflect_overflowing : (written [.overflowing]).WithinLimit ∧
    decode (written [.overflowing]) = .ok [.overflowing] ∧
    ∃ cause, Signature.overflowing.reflect = .error cause ∧ cause.category = "OverflowError" ∧
      cause.message = "Integer default -9223372036854775809 does not fit in a C# long" := by
  have hlimit : (written [.overflowing]).WithinLimit := by
    have hslash : Json.WithinLimit (.int 9223372036854775808) := Json.withinLimit_of_lt (by decide)
    have ha : Json.WithinLimit (.int 7) := Json.withinLimit_of_lt (by decide)
    have hb : Json.WithinLimit (.int (-9223372036854775809)) := Json.withinLimit_of_lt (by decide)
    simp [written, writtenSignature, Signature.overflowing, writtenParameter, writtenDefault,
      writtenScalar, writtenAnnotation, writtenAnnotations, Annotation.any, hslash, ha, hb,
      -Json.withinLimit_int]
  have hdecode : decode (written [.overflowing]) = .ok [.overflowing] := rfl
  obtain ⟨hiff, herror, -⟩ := reflect_decoded hlimit hdecode List.mem_cons_self
  have hlast : ∃ p ∈ Signature.overflowing.parameters, ∃ n, p.Overflows n :=
    ⟨_, List.mem_of_getElem? (i := 2) rfl, -9223372036854775809, by decide, _, rfl,
      .inr (.inl rfl), rfl, by decide⟩
  obtain ⟨cause, hcause⟩ := hiff.2 hlast
  obtain ⟨before, p, n, after, hsplit, -, ⟨hslash, c, hc, hover⟩, hcategory, -, hmessage⟩ :=
    herror cause hcause
  refine ⟨hlimit, hdecode, cause, hcause, hcategory, hmessage.trans ?_⟩
  -- of the three defaults only the last one is beyond 64 bits and not on the slash
  have hp : p ∈ Signature.overflowing.parameters := by simp [hsplit]
  have hn := hover.value
  have hrange := hover.range
  simp only [Signature.overflowing, List.mem_cons, List.not_mem_nil, or_false] at hp
  rcases hp with rfl | rfl | rfl
  · exact absurd rfl hslash
  · obtain rfl := Option.some.inj hc
    obtain rfl := Scalar.int.inj hn
    exact absurd hrange (by decide)
  · obtain rfl := Option.some.inj hc
    obtain rfl := Scalar.int.inj hn
    decide +kernel

end SignatureBridge
