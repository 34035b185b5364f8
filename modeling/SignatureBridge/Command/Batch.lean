import SignatureBridge.Reflection.Notes
import SignatureBridge.Text.Blank

/-!
# Batches of signatures

A batch reflects signatures one after the other. A signature that fails does not disturb the others:
it is noted with its cause (`Attempt`), and the batch goes on, unless it is to stop at the first
failure. The text of a batch is a line for each signature that did not fail, in order.

A list of names, written with commas between them, can select some of the signatures (`selection`).
-/

namespace SignatureBridge

/-- A signature with the outcome of its reflection. -/
structure Attempt where
  signature : Signature
  outcome : Except ReflectError Text

namespace Attempt

/-- The attempt at a signature. -/
def of (s : Signature) : Attempt := { signature := s, outcome := s.reflect }

/-- The output line, if reflection did not fail. -/
def line? (a : Attempt) : Option Text :=
  match a.outcome with
  | .ok line => some line
  | .error _ => none

/-- The name and the cause, if reflection failed. -/
def failure? (a : Attempt) : Option (Text × ReflectError) :=
  match a.outcome with
  | .ok _ => none
  | .error cause => some (a.signature.name, cause)

/-- A cause that the batch cannot take note of. -/
def fatal? (a : Attempt) : Option ReflectError :=
  match a.outcome with
  | .ok _ => none
  | .error cause => if cause.isExpected then none else some cause

/-- Whether the batch ends with the attempt. -/
def isLast (failFast : Bool) (a : Attempt) : Bool :=
  a.fatal?.isSome || failFast && a.failure?.isSome

end Attempt

namespace Batch

/-- The attempts of a batch. -/
def attempts (failFast : Bool) : List Signature → List Attempt
  | [] => []
  | s :: rest => if (Attempt.of s).isLast failFast then [.of s] else .of s :: attempts failFast rest

/-- The output lines of attempts. -/
def outputLines (attempts : List Attempt) : List Text := attempts.filterMap Attempt.line?

/-- The text of attempts. -/
def output (attempts : List Attempt) : Text := Text.lines (outputLines attempts)

/-- The failures among attempts. -/
def failures (attempts : List Attempt) : List (Text × ReflectError) :=
  attempts.filterMap Attempt.failure?

/-- The cause for which a batch cannot be brought to its end. -/
def fatal? (attempts : List Attempt) : Option ReflectError := attempts.findSome? Attempt.fatal?

/-! ### Selection -/

/-- The names in a list with commas between them; blanks around them do not count. -/
def names (list : Text) : List Text := ((list.split 44).map Text.trimBlanks).filter (· ≠ [])

/-- The names that no signature has. -/
def unknownNames (wanted : List Text) (signatures : List Signature) : List Text :=
  wanted.filter fun name ↦ !(signatures.map Signature.name).contains name

/-- The signatures with one of the names. -/
def select (wanted : List Text) (signatures : List Signature) : List Signature :=
  signatures.filter fun s ↦ wanted.contains s.name

/-- The signatures that a list of names selects, or the names that none has. An empty list, or none,
selects all. -/
def selection (list : Option Text) (signatures : List Signature) :
    Except (List Text) (List Signature) :=
  match list with
  | none | some [] => .ok signatures
  | some list =>
    match unknownNames (names list) signatures with
    | [] => .ok (select (names list) signatures)
    | unknown => .error unknown

end Batch

end SignatureBridge
