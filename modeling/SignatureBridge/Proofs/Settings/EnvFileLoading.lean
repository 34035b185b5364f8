import Mathlib.Data.List.Basic
import SignatureBridge.Settings.EnvFile

/-!
# What loading an environment file sets

The statements of an environment file bind names to values, each name once
(`EnvFile.nodup_bindAll`). `EnvFile.given?` is the value that a file gives to a name. It can refer
to variables, so it depends on the environment in which the file is loaded; whether there is a value
depends on the file alone (`EnvFile.mem_names_iff`).

Loading a file goes through the bindings. A name that the environment has keeps its value, also when
the loading fails further on (`EnvFile.get?_load_of_some`). If the environment takes all that is new
to it, every other name gets the value that the file gives (`EnvFile.get?_load`), and this is the
only way to succeed (`EnvFile.load_eq_ok_iff`). A file that gives nothing new is without effect
(`EnvFile.load_eq_self`).
-/

namespace SignatureBridge

namespace Environment

/-- Environments take a value for a name. -/
def Admits (name value : Text) : Prop := name ≠ [] ∧ 61 ∉ name ∧ 0 ∉ name ∧ 0 ∉ value

theorem set?_of_admits {name value : Text} (h : Admits name value) (env : Environment) :
    env.set? name value = .ok (env.set name value) := by
  obtain ⟨hempty, hequals, hname, hvalue⟩ := h
  simp [set?, hempty, hequals, hname, hvalue]

theorem set?_of_not_admits {name value : Text} (h : ¬ Admits name value) (env : Environment) :
    ∃ cause, env.set? name value = .error cause := by
  rw [set?]
  split_ifs with hnul hequals hempty
  · exact ⟨_, rfl⟩
  · exact ⟨_, rfl⟩
  · exact ⟨_, rfl⟩
  · refine absurd ?_ h
    simp only [List.contains_eq_mem, Bool.or_eq_true, decide_eq_true_eq, not_or] at hnul hequals
    exact ⟨hempty, hequals, hnul⟩

end Environment

namespace EnvFile

/-! ### Bindings -/

/-- The names that bindings bind. -/
def boundNames (bs : Bindings) : List Text := bs.map Prod.fst

theorem mem_boundNames_bind {name other : Text} {value : Option Text} {bs : Bindings} :
    other ∈ boundNames (bind name value bs) ↔ other = name ∨ other ∈ boundNames bs := by
  induction bs with
  | nil => simp [bind, boundNames]
  | cons b bs ih =>
    rw [bind]
    split
    · rename_i hb
      simp [boundNames, hb]
    · simp only [boundNames, List.map_cons, List.mem_cons] at ih ⊢
      rw [ih, or_left_comm]

theorem nodup_bind {bs : Bindings} (h : (boundNames bs).Nodup) (name : Text)
    (value : Option Text) : (boundNames (bind name value bs)).Nodup := by
  induction bs with
  | nil => simp [bind, boundNames]
  | cons b bs ih =>
    obtain ⟨hfresh, hrest⟩ := List.nodup_cons.1 h
    rw [bind]
    split
    · rename_i hb
      exact List.nodup_cons.2 ⟨hb ▸ hfresh, hrest⟩
    · rename_i hb
      refine List.nodup_cons.2 ⟨fun hmem ↦ ?_, ih hrest⟩
      exact (mem_boundNames_bind.1 hmem).elim hb hfresh

/-- Every name is bound once. -/
theorem nodup_bindAll (env : Environment) (ss : List Statement) :
    ∀ {bs : Bindings}, (boundNames bs).Nodup → (boundNames (bindAll env bs ss)).Nodup := by
  induction ss with
  | nil => exact id
  | cons s ss ih =>
    intro bs hbs
    cases s with
    | assign name value => exact ih (nodup_bind hbs name _)
    | empty => exact ih hbs
    | malformed line => exact ih hbs

/-- The value that bindings have for a name. -/
def valueIn (name : Text) (bs : Bindings) : Option Text := (bs.lookup name).join

theorem valueIn_cons (name : Text) (b : Text × Option Text) (bs : Bindings) :
    valueIn name (b :: bs) = if name = b.1 then b.2 else valueIn name bs := by
  obtain ⟨n, value⟩ := b
  by_cases h : name = n
  · subst h
    simp [valueIn]
  · have hn : (name == n) = false := by simpa using h
    simp only [valueIn, List.lookup_cons, hn, if_neg h]

theorem valueIn_eq_none {name : Text} {bs : Bindings} (h : name ∉ boundNames bs) :
    valueIn name bs = none := by
  induction bs with
  | nil => rfl
  | cons b bs ih =>
    simp only [boundNames, List.map_cons, List.mem_cons, not_or] at h ih
    rw [valueIn_cons, if_neg h.1, ih h.2]

/-! ### Setting what is missing -/

variable {env : Environment} {name : Text} {bs : Bindings}

/-- A binding is passed over if its name is set or if it has no value. -/
theorem setMissing_skip {n : Text} {value : Option Text} (h : env.get? n = none → value = none)
    (bs : Bindings) : setMissing ((n, value) :: bs) env = setMissing bs env := by
  conv => lhs; unfold setMissing
  split
  · rename_i v hn
    exact absurd (h hn) (by simp)
  · rfl

/-- **The three things that can happen to the first binding**: it is passed over, its name is set,
or its name is refused. -/
theorem setMissing_cases (n : Text) (value : Option Text) (bs : Bindings) (env : Environment) :
    ((env.get? n = none → value = none) ∧
      setMissing ((n, value) :: bs) env = setMissing bs env) ∨
    (∃ v, env.get? n = none ∧ value = some v ∧ Environment.Admits n v ∧
      setMissing ((n, value) :: bs) env = setMissing bs (env.set n v)) ∨
    ∃ v cause, env.get? n = none ∧ value = some v ∧ ¬ Environment.Admits n v ∧
      setMissing ((n, value) :: bs) env = (.error cause, env) := by
  by_cases hskip : env.get? n = none → value = none
  · exact .inl ⟨hskip, setMissing_skip hskip bs⟩
  · obtain ⟨hn, hvalue⟩ := Classical.not_imp.1 hskip
    obtain ⟨v, rfl⟩ := Option.ne_none_iff_exists'.1 hvalue
    by_cases hadmits : Environment.Admits n v
    · refine .inr (.inl ⟨v, hn, rfl, hadmits, ?_⟩)
      conv => lhs; unfold setMissing
      simp only [hn, Environment.set?_of_admits hadmits]
    · obtain ⟨cause, hset⟩ := Environment.set?_of_not_admits hadmits env
      refine .inr (.inr ⟨v, cause, hn, rfl, hadmits, ?_⟩)
      unfold setMissing
      simp only [hn, hset]

/-- A name that is set keeps its value, even if setting others fails. -/
theorem get?_setMissing_of_some {value : Text} :
    ∀ {env : Environment}, env.get? name = some value →
      (setMissing bs env).2.get? name = some value := by
  induction bs with
  | nil => exact id
  | cons b bs ih =>
    intro env h
    obtain ⟨n, w⟩ := b
    rcases setMissing_cases n w bs env with ⟨hskip, hset⟩ | ⟨v, hn, rfl, hadmits, hset⟩ |
      ⟨v, cause, hn, rfl, hrefused, hset⟩
    · rw [hset]
      exact ih h
    · rw [hset]
      refine ih ?_
      have hne : name ≠ n := by
        rintro rfl
        exact absurd (hn.symm.trans h) (by simp)
      rw [Environment.get?_set, if_neg hne, h]
    · rw [hset]
      exact h

/-- Setting succeeds if the environment takes all that is new to it, and not otherwise. -/
theorem setMissing_eq_ok_iff (hbs : (boundNames bs).Nodup) :
    ∀ {env : Environment}, (setMissing bs env).1 = .ok () ↔
      ∀ name value, env.get? name = none → valueIn name bs = some value →
        Environment.Admits name value := by
  induction bs with
  | nil => exact fun {env} ↦ ⟨fun _ _ _ _ h ↦ absurd h (by simp [valueIn]), fun _ ↦ rfl⟩
  | cons b bs ih =>
    intro env
    obtain ⟨n, w⟩ := b
    obtain ⟨hfresh, hrest⟩ := List.nodup_cons.1 hbs
    rcases setMissing_cases n w bs env with ⟨hskip, hset⟩ | ⟨v, hn, rfl, hadmits, hset⟩ |
      ⟨v, cause, hn, rfl, hrefused, hset⟩
    · rw [hset, ih hrest]
      refine forall_congr' fun name ↦ forall_congr' fun value ↦ imp_congr_right fun hname ↦ ?_
      rw [valueIn_cons]
      split
      · rename_i heq
        subst heq
        rw [valueIn_eq_none hfresh, hskip hname]
      · rfl
    · rw [hset, ih hrest]
      refine forall_congr' fun name ↦ forall_congr' fun value ↦ ?_
      rw [Environment.get?_set, valueIn_cons]
      split
      · rename_i heq
        subst heq
        simp only [reduceCtorEq, false_implies, true_iff, hn, forall_const, Option.some.injEq]
        rintro rfl
        exact hadmits
      · rfl
    · rw [hset]
      simp only [reduceCtorEq, false_iff, not_forall]
      exact ⟨n, v, hn, by rw [valueIn_cons, if_pos rfl], hrefused⟩

/-- After setting, a name has the value that it had before, or else the one of the bindings. -/
theorem get?_setMissing (hbs : (boundNames bs).Nodup) :
    ∀ {env : Environment}, (setMissing bs env).1 = .ok () →
      (setMissing bs env).2.get? name = (env.get? name).or (valueIn name bs) := by
  induction bs with
  | nil => exact fun {env} _ ↦ by simp [setMissing, valueIn]
  | cons b bs ih =>
    intro env hok
    obtain ⟨n, w⟩ := b
    obtain ⟨hfresh, hrest⟩ := List.nodup_cons.1 hbs
    rcases setMissing_cases n w bs env with ⟨hskip, hset⟩ | ⟨v, hn, rfl, hadmits, hset⟩ |
      ⟨v, cause, hn, rfl, hrefused, hset⟩
    · rw [hset] at hok ⊢
      rw [ih hrest hok, valueIn_cons]
      split
      · rename_i heq
        subst heq
        rw [valueIn_eq_none hfresh]
        rcases hname : env.get? name with - | value
        · rw [hskip hname]
        · rfl
      · rfl
    · rw [hset] at hok ⊢
      rw [ih hrest hok, Environment.get?_set, valueIn_cons]
      split
      · rename_i heq
        subst heq
        rw [hn]
        rfl
      · rfl
    · rw [hset] at hok
      exact absurd hok (by simp)

/-- Bindings that are set already change nothing. -/
theorem setMissing_eq_self (hbs : (boundNames bs).Nodup)
    (h : ∀ name, env.get? name = none → valueIn name bs = none) :
    setMissing bs env = (.ok (), env) := by
  induction bs with
  | nil => rfl
  | cons b bs ih =>
    obtain ⟨n, w⟩ := b
    obtain ⟨hfresh, hrest⟩ := List.nodup_cons.1 hbs
    have hskip : env.get? n = none → w = none := by
      intro hn
      have hvalue := h n hn
      rwa [valueIn_cons, if_pos rfl] at hvalue
    rw [setMissing_skip hskip]
    refine ih hrest fun name hname ↦ ?_
    have hvalue := h name hname
    rw [valueIn_cons] at hvalue
    split at hvalue
    · rename_i heq
      rw [heq, valueIn_eq_none hfresh]
    · exact hvalue

/-! ### Files -/

/-- The value that a file gives to a name when it is loaded into an environment. -/
def given? (t : Text) (env : Environment) (name : Text) : Option Text :=
  valueIn name (bindAll env [] (statements t))

/-- The environment takes what a file gives to the names that it does not have. -/
def Loads (t : Text) (env : Environment) : Prop :=
  ∀ name value, env.get? name = none → given? t env name = some value →
    Environment.Admits name value

theorem nodup_statements (t : Text) (env : Environment) :
    (boundNames (bindAll env [] (statements t))).Nodup :=
  nodup_bindAll env (statements t) List.nodup_nil

variable {t : Text}

theorem load_eq_ok_iff : (load t env).1 = .ok () ↔ Loads t env :=
  setMissing_eq_ok_iff (nodup_statements t env)

/-- **Loading a file sets what is missing**, to the values of the file. -/
theorem get?_load (h : (load t env).1 = .ok ()) (name : Text) :
    (load t env).2.get? name = (env.get? name).or (given? t env name) :=
  get?_setMissing (nodup_statements t env) h

/-- Loading a file changes no variable that is set. -/
theorem get?_load_of_some {value : Text} (h : env.get? name = some value) :
    (load t env).2.get? name = some value :=
  get?_setMissing_of_some h

/-! ### Names with values -/

/-- The names that a file gives values to. -/
def names (t : Text) : List Text :=
  ((bindAll {} [] (statements t)).filter fun b ↦ b.2.isSome).map Prod.fst

/-- Which names are bound, and which of them to a value. -/
def outline (bs : Bindings) : List (Text × Bool) := bs.map fun b ↦ (b.1, b.2.isSome)

theorem outline_bind {value value' : Option Text} {bs bs' : Bindings}
    (hvalue : value.isSome = value'.isSome) (h : outline bs = outline bs') (name : Text) :
    outline (bind name value bs) = outline (bind name value' bs') := by
  induction bs generalizing bs' with
  | nil =>
    obtain rfl : bs' = [] := by simpa [outline] using h.symm
    simp [bind, outline, hvalue]
  | cons b bs ih =>
    obtain ⟨b', bs', rfl⟩ : ∃ b' rest, bs' = b' :: rest := by
      cases bs' with
      | nil => exact absurd h (by simp [outline])
      | cons b' rest => exact ⟨b', rest, rfl⟩
    simp only [outline, List.map_cons, List.cons.injEq, Prod.mk.injEq] at h ih ⊢
    obtain ⟨⟨hname, hsome⟩, hrest⟩ := h
    rw [bind, bind, ← hname]
    split
    · simp only [List.map_cons, hvalue, hrest]
    · simp only [List.map_cons, ih hrest, hname, hsome]

/-- The outline of the bindings is a matter of the statements. -/
theorem outline_bindAll (env env' : Environment) (ss : List Statement) :
    ∀ {bs bs' : Bindings}, outline bs = outline bs' →
      outline (bindAll env bs ss) = outline (bindAll env' bs' ss) := by
  induction ss with
  | nil => exact id
  | cons s ss ih =>
    intro bs bs' h
    cases s with
    | assign name value =>
      exact ih (outline_bind (by rw [Option.isSome_map, Option.isSome_map]) h name)
    | empty => exact ih h
    | malformed line => exact ih h

theorem mem_outline_iff (hbs : (boundNames bs).Nodup) :
    (name, true) ∈ outline bs ↔ (valueIn name bs).isSome = true := by
  induction bs with
  | nil => simp [outline, valueIn]
  | cons b bs ih =>
    obtain ⟨hfresh, hrest⟩ := List.nodup_cons.1 hbs
    rw [outline, List.map_cons, List.mem_cons, Prod.mk.injEq, valueIn_cons]
    split
    · rename_i heq
      subst heq
      have habsent : (b.1, true) ∉ outline bs := fun h ↦ by
        rw [ih hrest, valueIn_eq_none hfresh] at h
        exact absurd h (by simp)
      simp only [true_and]
      exact ⟨fun h ↦ (h.resolve_right habsent).symm, fun h ↦ .inl h.symm⟩
    · rename_i hne
      simp only [hne, false_and, false_or]
      exact ih hrest

/-- Whether a file gives a value to a name does not depend on the environment. -/
theorem mem_names_iff (env : Environment) : name ∈ names t ↔ (given? t env name).isSome = true := by
  rw [given?, ← mem_outline_iff (nodup_statements t env), outline_bindAll env {} (statements t) rfl]
  simp [names, outline]

/-- A file that gives values to no names but those that are set is without effect. -/
theorem load_eq_self (h : ∀ name ∈ names t, (env.get? name).isSome = true) :
    load t env = (.ok (), env) := by
  refine setMissing_eq_self (nodup_statements t env) fun name hname ↦ ?_
  rcases hvalue : valueIn name (bindAll env [] (statements t)) with - | value
  · rfl
  · have hset := h name ((mem_names_iff env).2 (by rw [given?, hvalue]; rfl))
    rw [hname] at hset
    exact absurd hset (by simp)

end EnvFile

end SignatureBridge
