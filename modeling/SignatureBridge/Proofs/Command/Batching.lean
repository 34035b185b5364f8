import Mathlib.Data.List.TakeDrop
import SignatureBridge.Command.Batch
import SignatureBridge.Proofs.Reflection.Failing

/-!
# What a batch comes to

The loop of a batch goes over the signatures, keeps what each of them gives, and may stop early.
Here its results are said without a loop. `Batch.reached` are the signatures that it gets to: all of
them, or those up to the first one that fails. If the batch takes note of every failure, its
attempts are the attempts at these signatures (`attempts_eq`), and so its text, its failures and its
counts are those of the list (`Batch.text`, `Batch.failing`). Both are made signature by signature,
which is why one signature cannot disturb another.

That loadable signatures only fail in ways that a batch takes note of is the one fact about
reflection that is needed.
-/

namespace SignatureBridge

/-- Whether reflecting the signature fails. -/
def Signature.fails (s : Signature) : Bool :=
  match s.reflect with
  | .ok _ => false
  | .error _ => true

/-- The batch takes note of whatever makes the signature fail. -/
def Signature.FailsAsExpected (s : Signature) : Prop :=
  ∀ cause, s.reflect = .error cause → cause.isExpected = true

theorem Signature.IsLoadable.failsAsExpected {s : Signature} (hs : s.IsLoadable) :
    s.FailsAsExpected := by
  intro cause hcause
  obtain ⟨_, _, _, _, -, -, -, rfl⟩ := hs.reflect_eq_error_iff.1 hcause
  rfl

namespace Batch

/-- The signatures that a batch gets to: all, or the first that fails and those before it. -/
def reached (failFast : Bool) (ss : List Signature) : List Signature :=
  if failFast then ss.take (ss.findIdx Signature.fails + 1) else ss

/-- The lines of the signatures that do not fail, in order. -/
def text (ss : List Signature) : Text :=
  ss.flatMap fun s ↦
    match s.reflect with
    | .ok line => line ++ [10]
    | .error _ => []

/-- The signatures that fail, in order, each by its name and with the cause. -/
def failing (ss : List Signature) : List (Text × ReflectError) :=
  ss.filterMap fun s ↦
    match s.reflect with
    | .ok _ => none
    | .error cause => some (s.name, cause)

theorem mem_of_selection {list : Option Text} {loaded ss : List Signature}
    (h : selection list loaded = .ok ss) : ∀ s ∈ ss, s ∈ loaded := by
  intro s hs
  unfold selection at h
  split at h
  · exact Except.ok.inj h ▸ hs
  · exact Except.ok.inj h ▸ hs
  · split at h
    · exact (List.mem_filter.1 (Except.ok.inj h ▸ hs)).1
    · exact absurd h (by simp)

/-! ### The loop -/

theorem isLast_of {failFast : Bool} {s : Signature} (hs : s.FailsAsExpected) :
    (Attempt.of s).isLast failFast = (failFast && s.fails) := by
  rw [Attempt.isLast, Attempt.fatal?, Attempt.failure?, Signature.fails]
  simp only [Attempt.of]
  rcases hreflect : s.reflect with cause | line
  · simp [hs cause hreflect]
  · simp

theorem reached_cons (failFast : Bool) (s : Signature) (ss : List Signature) :
    reached failFast (s :: ss) = s :: if failFast && s.fails then [] else reached failFast ss := by
  cases failFast with
  | false => rfl
  | true =>
    simp only [reached, if_true, Bool.true_and, List.findIdx_cons]
    cases s.fails <;> simp

/-- **The attempts of a batch are those at the signatures that it gets to.** -/
theorem attempts_eq {failFast : Bool} {ss : List Signature} (hss : ∀ s ∈ ss, s.FailsAsExpected) :
    attempts failFast ss = (reached failFast ss).map .of := by
  induction ss with
  | nil => cases failFast <;> rfl
  | cons s ss ih =>
    rw [attempts, isLast_of (hss s List.mem_cons_self), reached_cons]
    split
    · rfl
    · rw [ih fun t ht ↦ hss t (List.mem_cons_of_mem s ht)]
      rfl

/-- A batch that does not stop at failures gets to every signature. -/
theorem reached_eq_self {failFast : Bool} (hfast : failFast = false) (ss : List Signature) :
    reached failFast ss = ss := by
  rw [reached, hfast, if_neg Bool.false_ne_true]

theorem mem_of_mem_reached {failFast : Bool} {ss : List Signature} :
    ∀ s ∈ reached failFast ss, s ∈ ss := by
  cases failFast with
  | false => exact fun _ ↦ id
  | true => exact fun _ ↦ List.mem_of_mem_take

/-! ### Results -/

theorem output_map_of (ss : List Signature) : output (ss.map .of) = text ss := by
  rw [output, outputLines, Text.lines, List.filterMap_map, text]
  induction ss with
  | nil => rfl
  | cons s ss ih =>
    rw [List.filterMap_cons, List.flatMap_cons, ← ih]
    simp only [Function.comp, Attempt.line?, Attempt.of]
    cases s.reflect <;> rfl

theorem failures_map_of (ss : List Signature) : failures (ss.map .of) = failing ss := by
  rw [failures, List.filterMap_map]
  rfl

theorem fatal?_map_of {ss : List Signature} (hss : ∀ s ∈ ss, s.FailsAsExpected) :
    fatal? (ss.map .of) = none := by
  rw [fatal?, List.findSome?_eq_none_iff]
  intro a ha
  obtain ⟨s, hs, rfl⟩ := List.mem_map.1 ha
  simp only [Attempt.fatal?, Attempt.of]
  rcases hreflect : s.reflect with cause | line
  · exact if_pos (hss s hs cause hreflect)
  · rfl

theorem length_outputLines_map_of (ss : List Signature) :
    (outputLines (ss.map .of)).length = ss.countP (!·.fails) := by
  rw [outputLines, List.filterMap_map, List.length_filterMap_eq_countP]
  refine List.countP_congr fun s _ ↦ ?_
  simp only [Function.comp, Attempt.line?, Attempt.of, Signature.fails]
  cases s.reflect <;> simp

theorem length_failing (ss : List Signature) : (failing ss).length = ss.countP Signature.fails := by
  rw [failing, List.length_filterMap_eq_countP]
  refine List.countP_congr fun s _ ↦ ?_
  simp only [Signature.fails]
  cases s.reflect <;> simp

theorem failing_eq_nil_iff {ss : List Signature} :
    failing ss = [] ↔ ss.any Signature.fails = false := by
  rw [← List.length_eq_zero_iff, length_failing, List.countP_eq_zero]
  simp

/-- The text of a list is that of its parts. -/
theorem text_append (ss ts : List Signature) : text (ss ++ ts) = text ss ++ text ts :=
  List.flatMap_append

/-- A batch that does not stop early comes to something for every signature. -/
theorem countP_add_countP (ss : List Signature) :
    ss.countP (!·.fails) + ss.countP Signature.fails = ss.length := by
  simp [List.length_eq_countP_add_countP Signature.fails, Nat.add_comm]

end Batch

end SignatureBridge
