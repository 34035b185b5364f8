import SignatureBridge.Text.Basic

/-!
# Environments

An environment gives texts to names. Setting a name changes the value of that name and of no other
(`get?_set`, `get?_unset`). A name must not be empty, must not hold an equals sign, and neither a
name nor a value may hold the code point zero.
-/

namespace SignatureBridge

/-- An environment: its names with their values. -/
structure Environment where
  pairs : List (Text × Text) := []
  deriving DecidableEq

/-- Why a name cannot be set. -/
inductive EnvironmentError where
  | emptyName
  | illegalName
  | nulByte
  deriving DecidableEq

namespace EnvironmentError

/-- The wording of the cause. -/
def message : EnvironmentError → Text
  | emptyName => "[Errno 22] Invalid argument"
  | illegalName => "illegal environment variable name"
  | nulByte => "embedded null byte"

/-- The class under which a report files the cause. -/
def category : EnvironmentError → Text
  | emptyName => "OSError"
  | _ => "ValueError"

end EnvironmentError

namespace Environment

/-- The value of a name. -/
def get? (env : Environment) (name : Text) : Option Text := env.pairs.lookup name

/-- The value of a name, or another text when it has none. -/
def getD (env : Environment) (name default : Text) : Text := (env.get? name).getD default

/-- The environment without a name. -/
def unset (env : Environment) (name : Text) : Environment :=
  { pairs := env.pairs.filter fun v ↦ v.1 ≠ name }

/-- The environment with a value for a name. -/
def set (env : Environment) (name value : Text) : Environment :=
  { pairs := (name, value) :: (env.unset name).pairs }

/-- The environment with a value for a name, if both can be set. -/
def set? (env : Environment) (name value : Text) : Except EnvironmentError Environment :=
  if name.contains 0 || value.contains 0 then .error .nulByte
  else if name.contains 61 then .error .illegalName
  else if name = [] then .error .emptyName
  else .ok (env.set name value)

theorem lookup_filter_ne (name other : Text) (pairs : List (Text × Text)) :
    (pairs.filter fun v ↦ v.1 ≠ name).lookup other =
      if other = name then none else pairs.lookup other := by
  induction pairs with
  | nil => simp
  | cons v rest ih =>
    obtain ⟨n, x⟩ := v
    by_cases hn : n = name
    · subst hn
      simp only [ne_eq, not_true_eq_false, decide_false, Bool.false_eq_true, not_false_eq_true,
        List.filter_cons_of_neg, ih]
      by_cases h : other = n
      · simp [h]
      · have hb : (other == n) = false := by simpa using h
        simp [h, List.lookup_cons, hb]
    · rw [List.filter_cons_of_pos (by simpa using hn)]
      by_cases h : other = n
      · subst h
        simp [hn]
      · have hb : (other == n) = false := by simpa using h
        simp only [List.lookup_cons, hb]
        exact ih

/-- Unsetting a name takes its value away and leaves the others. -/
theorem get?_unset (env : Environment) (name other : Text) :
    (env.unset name).get? other = if other = name then none else env.get? other :=
  lookup_filter_ne name other env.pairs

/-- Setting a name gives it the value and leaves the others. -/
theorem get?_set (env : Environment) (name value other : Text) :
    (env.set name value).get? other = if other = name then some value else env.get? other := by
  unfold set get?
  by_cases h : other = name
  · subst h
    simp
  · have hb : (other == name) = false := by simpa using h
    simp only [List.lookup_cons, hb, h, if_false]
    rw [unset, lookup_filter_ne, if_neg h]

end Environment

end SignatureBridge
