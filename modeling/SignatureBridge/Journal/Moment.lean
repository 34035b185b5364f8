import SignatureBridge.Number.Radix

/-!
# Moments

A moment is a date and a time of day. A log file is named by the compact form, a record is stamped
with the long one. Every part but the year is padded to two digits.
-/

namespace SignatureBridge.Journal

/-- A date and a time of day. -/
structure Moment where
  year : Nat
  month : Nat
  day : Nat
  hour : Nat
  minute : Nat
  second : Nat
  deriving DecidableEq

namespace Moment

/-- A part of a moment with two digits. -/
def twoDigits (n : Nat) : Text := Text.padZeros 2 (Text.ofNat n)

/-- The form in the name of a log file: `20240102_030405`. -/
def compact (m : Moment) : Text :=
  Text.ofNat m.year ++ twoDigits m.month ++ twoDigits m.day ++ "_" ++ twoDigits m.hour ++
    twoDigits m.minute ++ twoDigits m.second

/-- The form in front of a record: `2024-01-02 03:04:05`. -/
def stamp (m : Moment) : Text :=
  Text.ofNat m.year ++ "-" ++ twoDigits m.month ++ "-" ++ twoDigits m.day ++ " " ++
    twoDigits m.hour ++ ":" ++ twoDigits m.minute ++ ":" ++ twoDigits m.second

end Moment

end SignatureBridge.Journal
