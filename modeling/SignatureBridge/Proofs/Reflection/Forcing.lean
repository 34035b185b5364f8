import SignatureBridge.Proofs.Reflection.Declaring

/-!
# Forced defaults and null

What holds of every declaration, whatever entry it comes from. A declaration without a default comes
from a normal entry that is not keyword-only and has none; every other entry without a default is
given nothing as one. And `null` only stands where the type admits it: the default of a declaration
is `null` exactly if the declaration is marked nullable, and then its type has the mark, while
otherwise the type is that of the annotation as it is.

A literal is `null` for a default that is nothing or of a form that no rule covers, and for no other
(`Constant.GivesNull`, `Constant.cases_of_reflect`); the rest is what a declaration takes from its
entry (`Parameter.Declares`).
-/

namespace SignatureBridge

/-! ### Null literals -/

namespace Constant

/-- The default is nothing, or of a form that no rule covers. -/
def GivesNull (c : Constant) : Prop := c.form = .none ∨ ∃ tag, c.form = .other tag

theorem kind_basedLiteral (n : Int) (base : Base) : (basedLiteral n base).kind = .numeric := by
  rw [basedLiteral]
  split_ifs <;> rfl

theorem kind_doubleLiteral_ne (x : Binary64) : (doubleLiteral x).kind ≠ .nullWord := by
  show LiteralKind.numeric ≠ .nullWord
  decide

theorem kind_string_ne (t : Text) : (Literal.string t).kind ≠ .nullWord := by
  show LiteralKind.string ≠ .nullWord
  decide

theorem kind_bool_ne (b : Bool) : (Literal.bool b).kind ≠ .nullWord := by
  cases b <;> decide

/-- **The literal of a default** is `null` and asks for a nullable type, or it does neither. -/
theorem cases_of_reflect {c : Constant} {literal : Literal} {nullable : Bool}
    (h : c.reflect = .ok (literal, nullable)) :
    literal = .null ∧ nullable = true ∧ c.GivesNull ∨
      literal.kind ≠ .nullWord ∧ nullable = false ∧ ¬ c.GivesNull := by
  obtain ⟨form, value⟩ := c
  -- what a rule covers, nothing apart, asks for no mark
  have hcovered : ∀ {written : Literal}, written.kind ≠ .nullWord → ¬ GivesNull ⟨form, value⟩ →
      (written, false) = (literal, nullable) →
      literal.kind ≠ .nullWord ∧ nullable = false ∧ ¬ GivesNull ⟨form, value⟩ := by
    intro written hkind hform heq
    obtain ⟨rfl, rfl⟩ := Prod.mk.inj heq
    exact ⟨hkind, rfl, hform⟩
  have hinteger : ∀ {write : Int → Literal}, (∀ n, (write n).kind = .numeric) →
      ¬ GivesNull ⟨form, value⟩ →
      ((longValue ⟨form, value⟩).map fun n ↦ (write n, false)) = .ok (literal, nullable) →
      literal.kind ≠ .nullWord ∧ nullable = false ∧ ¬ GivesNull ⟨form, value⟩ := by
    intro write hwrite hform hmap
    obtain ⟨n, -, heq⟩ := Except.map_eq_ok_iff.1 hmap
    exact hcovered (by rw [hwrite n]; decide) hform heq
  rw [reflect] at h
  cases form with
  | integer => exact .inr (hinteger (fun n ↦ rfl) (by simp [GivesNull]) h)
  | hexadecimal =>
    exact .inr (hinteger (fun n ↦ kind_basedLiteral n .hexadecimal) (by simp [GivesNull]) h)
  | binary => exact .inr (hinteger (fun n ↦ kind_basedLiteral n .binary) (by simp [GivesNull]) h)
  | double =>
    dsimp only at h
    split at h
    · exact .inr (hcovered (kind_doubleLiteral_ne _) (by simp [GivesNull]) (Except.ok.inj h))
    · exact absurd h (by simp)
  | text =>
    dsimp only at h
    split at h
    · exact .inr (hcovered (kind_string_ne _) (by simp [GivesNull]) (Except.ok.inj h))
    · split at h
      · exact .inr (hcovered (kind_string_ne _) (by simp [GivesNull]) (Except.ok.inj h))
      · exact absurd h (by simp)
  | bool => exact .inr (hcovered (kind_bool_ne _) (by simp [GivesNull]) (Except.ok.inj h))
  | none =>
    obtain ⟨rfl, rfl⟩ := Prod.mk.inj (Except.ok.inj h)
    exact .inl ⟨rfl, rfl, .inl rfl⟩
  | other tag =>
    obtain ⟨rfl, rfl⟩ := Prod.mk.inj (Except.ok.inj h)
    exact .inl ⟨rfl, rfl, .inr ⟨tag, rfl⟩⟩

end Constant

/-! ### Declarations -/

namespace Parameter

variable {p : Parameter} {d : Declaration}

/-- An entry with a declaration that gathers no arguments is a normal one. -/
theorem Declares.kind_eq_normal (h : p.Declares d) (hvariadic : p.kind.isVariadic = false) :
    p.kind = .normal := by
  obtain ⟨a, htyping, -⟩ := h.type
  rw [typing] at htyping
  cases hk : p.kind with
  | normal => rfl
  | positionalOnlyMarker | other name => simp [hk] at htyping
  | variadicPositional | variadicKeyword => simp [hk, ParameterKind.isVariadic] at hvariadic

theorem Declares.default_eq_none_iff (h : p.Declares d) :
    d.default = none ↔ p.kind = .normal ∧ p.keywordOnly = false ∧ p.default = none := by
  have hsome : d.default.isSome = p.effectiveDefault.isSome := h.isOptional
  rw [← Option.not_isSome_iff_eq_none, hsome, Option.not_isSome_iff_eq_none,
    effectiveDefault_eq_none_iff]
  constructor
  · rintro ⟨hnone, hvariadic, hkeyword⟩
    exact ⟨h.kind_eq_normal hvariadic, hkeyword, hnone⟩
  · rintro ⟨hkind, hkeyword, hnone⟩
    exact ⟨hnone, by rw [hkind]; rfl, hkeyword⟩

/-- The default of a declaration is `null`, and its effective default gives `null`, exactly if the
declaration is marked nullable. -/
theorem Declares.nullable_iff (h : p.Declares d) :
    (d.nullable = true ↔ d.default = some .null) ∧
      (d.nullable = true ↔ ∃ literal, d.default = some literal ∧ literal.kind = .nullWord) ∧
      (d.nullable = true ↔ ∃ c, d.effectiveDefault = some c ∧ c.GivesNull) := by
  rw [h.effectiveDefault]
  rcases hp : p.effectiveDefault with - | c
  · obtain ⟨hdefault, hnullable⟩ := h.required hp
    simp [hdefault, hnullable]
  · obtain ⟨literal, hreflect, hdefault⟩ := h.optional c hp
    rcases Constant.cases_of_reflect hreflect with
      ⟨rfl, hnullable, hnull⟩ | ⟨hkind, hnullable, hnull⟩
    · simp [hdefault, hnullable, hnull, Literal.null]
    · have hne : literal ≠ .null := fun heq ↦ hkind (by rw [heq]; rfl)
      simp [hdefault, hnullable, hnull, hkind, hne]

/-- The type of a declaration is that of its entry, with the mark if `null` needs it. -/
theorem Declares.exists_reflectType (h : p.Declares d) :
    ∃ type, p.reflectType = .ok (some type) ∧
      d.type = if d.nullable then type.asNullable else type := by
  obtain ⟨a, htyping, htype⟩ := h.type
  exact ⟨a.reflect, by rw [reflectType, htyping]; rfl, htype⟩

/-- The annotation of an entry that gathers arguments does not count. -/
theorem reflectType_of_variadic :
    (p.kind = .variadicPositional →
        p.reflectType = .ok (some <| Annotation.reflect ⟨"tuple", [.any]⟩)) ∧
      (p.kind = .variadicKeyword →
        p.reflectType = .ok (some <| Annotation.reflect ⟨"dict", [{ name := "str" }, .any]⟩)) := by
  refine ⟨fun hkind ↦ ?_, fun hkind ↦ ?_⟩
  · rw [reflectType, typing, hkind]
    rfl
  · rw [reflectType, typing, hkind]
    rfl

/-- **Forced defaults and null safety.** A declaration is without a default exactly if its entry is
normal, not keyword-only and without one. Its effective default is the entry's own, and where that
is missing it is nothing exactly for an entry that gathers arguments or is keyword-only. The default
is `null` exactly if the declaration is marked nullable, and exactly if the effective default is
nothing or of a form that no rule covers; then the type is nullable. The type is that of the entry,
and but for the mark it always is; for an entry that gathers arguments it is a fixed one. -/
theorem forced_defaults_and_null_safety (h : p.declare = .ok (some d)) :
    (d.default = none ↔ p.kind = .normal ∧ p.keywordOnly = false ∧ p.default = none) ∧
      (∀ c, p.default = some c → d.effectiveDefault = some c) ∧
      (p.default = none → d.effectiveDefault =
        if p.kind.isVariadic = true ∨ p.keywordOnly = true then some .missing else none) ∧
      ((d.nullable = true ↔ d.default = some .null) ∧
        (d.nullable = true ↔ ∃ literal, d.default = some literal ∧ literal.kind = .nullWord) ∧
        (d.nullable = true ↔ ∃ c, d.effectiveDefault = some c ∧ c.GivesNull)) ∧
      ∃ type, p.reflectType = .ok (some type) ∧
        (d.nullable = true → d.type.nullable = true) ∧
        (d.nullable = false → d.type = type) ∧
        d.type.asNullable = type.asNullable ∧
        (p.kind = .variadicPositional → type = Annotation.reflect ⟨"tuple", [.any]⟩) ∧
        (p.kind = .variadicKeyword →
          type = Annotation.reflect ⟨"dict", [{ name := "str" }, .any]⟩) := by
  have hd := declares_of_declare h
  refine ⟨hd.default_eq_none_iff, fun c hc ↦ ?_, fun hnone ↦ ?_, hd.nullable_iff, ?_⟩
  · rw [hd.effectiveDefault, effectiveDefault_of_default hc]
  · rw [hd.effectiveDefault, effectiveDefault_of_default_none hnone]
  · obtain ⟨type, hreflect, htype⟩ := hd.exists_reflectType
    have hfixed : ∀ {fixed : TypeExpr}, p.reflectType = .ok (some fixed) → type = fixed := by
      intro fixed hfixed
      exact Option.some.inj (Except.ok.inj (hreflect.symm.trans hfixed))
    refine ⟨type, hreflect, fun hmark ↦ ?_, fun hmark ↦ ?_, ?_,
      fun hkind ↦ hfixed (reflectType_of_variadic.1 hkind),
      fun hkind ↦ hfixed (reflectType_of_variadic.2 hkind)⟩
    · rw [htype, hmark]
      rfl
    · rw [htype, hmark]
      rfl
    · rw [htype]
      split_ifs <;> rfl

/-- A starred entry with an annotation and a default of an unknown form. -/
def annotatedStarred : Parameter :=
  { starred with type := { name := "int" }, default := some { form := .other "lambda" } }

/-- The starred entry has a declaration. Its default is `null` and its type is nullable, and but for
the mark it is the tuple type, whatever the annotation says. -/
theorem forced_defaults_and_null_safety_of_annotatedStarred :
    ∃ d, annotatedStarred.declare = .ok (some d) ∧ d.default = some .null ∧
      d.type.nullable = true ∧
      d.type.asNullable = Annotation.anyTuple.reflect.asNullable := by
  obtain ⟨d, hd⟩ : ∃ d, annotatedStarred.declare = .ok (some d) := ⟨_, rfl⟩
  obtain ⟨-, hown, -, hnull, type, -, hmark, -, hagree, hfixed, -⟩ :=
    forced_defaults_and_null_safety hd
  have hnullable : d.nullable = true := hnull.2.2.2 ⟨_, hown _ rfl, .inr ⟨"lambda", rfl⟩⟩
  exact ⟨d, hd, hnull.1.1 hnullable, hmark hnullable, hfixed rfl ▸ hagree⟩

end Parameter

end SignatureBridge
