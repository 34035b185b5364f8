import SignatureBridge.Journal.Record
import SignatureBridge.Number.Fixed
import SignatureBridge.Number.Error

/-!
# Timed activities

An activity that is timed leaves a record when it starts and one when it is completed or has failed;
the last one tells the milliseconds between two readings of a clock, with two places. Readings may
be integers, and then the difference is exact before it is rounded.
-/

namespace SignatureBridge.Journal

/-- A reading of a clock, in seconds. -/
inductive Reading where
  | whole (n : Int)
  | fraction (x : Binary64)
  deriving DecidableEq

namespace Reading

/-- The double of a reading. -/
def toDouble : Reading → Except NumberError Binary64
  | whole n =>
    match Binary64.ofInt? n with
    | some x => .ok x
    | none => .error .beyondDouble
  | fraction x => .ok x

/-- The milliseconds from one reading to another. -/
def milliseconds (start stop : Reading) : Except NumberError Binary64 :=
  match start, stop with
  | whole m, whole n => (whole ((n - m) * 1000)).toDouble
  | _, _ => do
    let thousand : Binary64 := .ofRatio false 1000 1
    return ((← stop.toDouble).sub (← start.toDouble)).mul thousand

/-- The text of the time between two readings. -/
def elapsed (start stop : Reading) : Except NumberError Text :=
  (milliseconds start stop).map fun ms ↦ ms.fixedTwo ++ "ms"

end Reading

/-- The text of no time at all, which is what a clock that stands still measures. -/
def noTime : Text := "0.00ms"

/-- What stopped an activity: the class under which it is filed and what it was given to say. -/
structure Interruption where
  category : Text
  argument : Text
  deriving DecidableEq

namespace Interruption

/-- Whether it counts as a failure, which is recorded, and not as a wish to leave. -/
def isFailure (i : Interruption) : Bool :=
  !(["SystemExit", "KeyboardInterrupt", "GeneratorExit"] : List Text).contains i.category

/-- Its wording; a key that was not found is quoted. -/
def message (i : Interruption) : Text :=
  if i.category = "KeyError" then i.argument.quoted else i.argument

end Interruption

/-- The activity whose start and end are recorded. -/
structure Activity where
  origin : Origin
  name : Text

namespace Activity

/-- The record of the start. -/
def started (a : Activity) : Record := ⟨a.origin, .debug, "Starting " ++ a.name⟩

/-- The record of the end. -/
def completed (a : Activity) (elapsed : Text) : Record :=
  ⟨a.origin, .debug, "Completed " ++ a.name ++ " in " ++ elapsed⟩

/-- The record of a failure. -/
def failed (a : Activity) (elapsed cause : Text) : Record :=
  ⟨a.origin, .error, "Failed " ++ a.name ++ " after " ++ elapsed ++ ": " ++ cause⟩

/-- The records of the end, from the time that the activity took and from what stopped it, if
anything did. There is none when it is left on purpose or when its time cannot be told. -/
def closing (a : Activity) : Except NumberError Text → Option Interruption → List Record
  | .error _, _ => []
  | .ok elapsed, none => [a.completed elapsed]
  | .ok elapsed, some i => if i.isFailure then [a.failed elapsed i.message] else []

/-- The records of the whole activity, between two readings of the clock. -/
def records (a : Activity) (start stop : Reading) (i : Option Interruption) : List Record :=
  a.started :: a.closing (Reading.elapsed start stop) i

end Activity

end SignatureBridge.Journal
