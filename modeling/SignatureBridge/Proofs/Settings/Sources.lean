import SignatureBridge.Settings.Config

/-!
# Where settings come from

Settings only depend on the values of their variables (`Config.ofEnvironment_congr`,
`Tuning.ofEnvironment_congr`). Of the finer settings three come from variables that a run looks up
early, before it loads an environment file; the suffix of output files is looked up again when it is
needed. `Tuning.ofEnvironment_eq_of_early` keeps the two kinds apart.

`Environment.setAll` sets several names one after the other. What it gives to a name only depends on
the assignments to that name.
-/

namespace SignatureBridge

/-! ### Assignments -/

namespace Environment

/-- The environment with values for names, set one after the other. -/
def setAll (assignments : List (Text × Text)) (env : Environment) : Environment :=
  assignments.foldl (fun env v ↦ env.set v.1 v.2) env

variable {assignments : List (Text × Text)} {env env' : Environment} {name : Text}

/-- What a name has after assignments only depends on what it had before. -/
theorem get?_setAll_congr (h : env.get? name = env'.get? name) :
    (env.setAll assignments).get? name = (env'.setAll assignments).get? name := by
  rw [setAll, setAll]
  induction assignments generalizing env env' with
  | nil => exact h
  | cons v assignments ih =>
    refine ih ?_
    rw [get?_set, get?_set, h]

/-- Assignments to some of the names give these what all assignments give them. -/
theorem get?_setAll_filter (keep : Text → Bool) :
    (env.setAll (assignments.filter fun v ↦ keep v.1)).get? name =
      if keep name then (env.setAll assignments).get? name else env.get? name := by
  induction assignments generalizing env with
  | nil => simp [setAll]
  | cons v assignments ih =>
    by_cases hv : keep v.1 = true
    · rw [List.filter_cons, if_pos hv]
      show ((env.set v.1 v.2).setAll _).get? name = _
      rw [ih]
      by_cases hname : keep name = true
      · rw [if_pos hname, if_pos hname]
        rfl
      · have hne : name ≠ v.1 := fun h ↦ hname (h ▸ hv)
        rw [if_neg hname, if_neg hname, get?_set, if_neg hne]
    · rw [List.filter_cons, if_neg hv, ih]
      by_cases hname : keep name = true
      · have hne : name ≠ v.1 := fun h ↦ hv (h ▸ hname)
        rw [if_pos hname, if_pos hname]
        refine get?_setAll_congr ?_
        rw [get?_set, if_neg hne]
      · rw [if_neg hname, if_neg hname]

end Environment

namespace Tuning

/-- The variables that a run has looked up before it loads the environment file. -/
def earlySources : List Text :=
  [family ++ "CHECK_PARAMETER_ORDER", family ++ "FAIL_FAST", family ++ "LOG_FILE_PREFIX"]

/-- The finer settings other than the suffix of output files come from the variables that are looked
up early. -/
theorem ofEnvironment_eq_of_early {env env' : Environment}
    (h : ∀ name ∈ earlySources, env.get? name = env'.get? name) :
    ofEnvironment env =
      { ofEnvironment env' with outputSuffix := (ofEnvironment env).outputSuffix } := by
  have hcheck := h (family ++ "CHECK_PARAMETER_ORDER") (by simp [earlySources])
  have hfast := h (family ++ "FAIL_FAST") (by simp [earlySources])
  have hlog := h (family ++ "LOG_FILE_PREFIX") (by simp [earlySources])
  simp only [ofEnvironment, switch, Environment.getD, hcheck, hfast, hlog]

/-- The finer settings come from four variables. -/
theorem ofEnvironment_congr {env env' : Environment}
    (h : ∀ name ∈ sources, env.get? name = env'.get? name) :
    ofEnvironment env = ofEnvironment env' := by
  have hearly : ∀ name ∈ earlySources, name ∈ sources := by decide
  have hsource := h (family ++ "OUTPUT_FILE_SUFFIX") (by simp [sources])
  have hsuffix : (ofEnvironment env).outputSuffix = (ofEnvironment env').outputSuffix := by
    simp only [ofEnvironment, Environment.getD, hsource]
  rw [ofEnvironment_eq_of_early fun name hname ↦ h name (hearly name hname), hsuffix]

end Tuning

/-- The settings come from four variables. -/
theorem Config.ofEnvironment_congr {env env' : Environment}
    (h : ∀ name ∈ Config.sources, env.get? name = env'.get? name) :
    ofEnvironment env = ofEnvironment env' := by
  have hfile := h "SIGNATURE_FILE_PATH" (by simp [sources])
  have houtput := h "OUTPUT_DIR" (by simp [sources])
  have hverbose := h "VERBOSE" (by simp [sources])
  have hlog := h "LOG_DIR" (by simp [sources])
  simp only [ofEnvironment, Environment.getD, hfile, houtput, hverbose, hlog]

/-- A choice whose path can be had is the choice of a path. -/
theorem DirectoryChoice.path?_of_path {choice : DirectoryChoice} {p : FilePath}
    (h : choice.path = .ok p) : choice.path? = some p := by
  cases choice <;> cases h
  rfl

end SignatureBridge
