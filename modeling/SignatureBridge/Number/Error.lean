import SignatureBridge.Text.Quoted

/-!
# Failures of number conversions

The causes for which a value cannot be taken as an integer or as a double, or an integer not be read
or written in decimal, with the wording that the user sees. Conversions between integers and decimal
text stop at `digitLimit` digits: beyond it they cost more than any signature is worth.
-/

namespace SignatureBridge

/-- The greatest number of decimal digits of an integer that is read or written. -/
def digitLimit : Nat := 4300

/-- Why a number conversion failed. -/
inductive NumberError where
  /-- No value is given where an integer is needed. -/
  | noInteger
  /-- No value is given where a double is needed. -/
  | noDouble
  /-- An infinity has no integer part. -/
  | infiniteInteger
  /-- The value that is not a number has no integer part. -/
  | undefinedInteger
  /-- The text does not spell an integer. -/
  | malformedInteger (source : Text)
  /-- The text does not spell a number. -/
  | malformedDouble (source : Text)
  /-- The integer is beyond the finite doubles. -/
  | beyondDouble
  /-- The text has more digits than are read. -/
  | readingLimit (digits : Nat)
  /-- The integer has more digits than are written. -/
  | writingLimit
  deriving DecidableEq

namespace NumberError

/-- How many letters of a malformed integer are shown. -/
def shownLetters : Nat := 200

/-- The wording of the cause. -/
def message : NumberError → Text
  | noInteger =>
    "int() argument must be a string, a bytes-like object or a real number, not 'NoneType'"
  | noDouble => "float() argument must be a string or a real number, not 'NoneType'"
  | infiniteInteger => "cannot convert float infinity to integer"
  | undefinedInteger => "cannot convert float NaN to integer"
  | malformedInteger source =>
    "invalid literal for int() with base 10: " ++ (source.quoted.take shownLetters : Text)
  | malformedDouble source => "could not convert string to float: " ++ source.quoted
  | beyondDouble => "int too large to convert to float"
  | readingLimit digits =>
    "Exceeds the limit (" ++ Text.ofNat digitLimit ++
      " digits) for integer string conversion: value has " ++ Text.ofNat digits ++
      " digits; use sys.set_int_max_str_digits() to increase the limit"
  | writingLimit =>
    "Exceeds the limit (" ++ Text.ofNat digitLimit ++ " digits) for integer string conversion;" ++
      " use sys.set_int_max_str_digits() to increase the limit"

/-- The class under which a report files the cause. -/
def category : NumberError → Text
  | noInteger | noDouble => "TypeError"
  | infiniteInteger | beyondDouble => "OverflowError"
  | _ => "ValueError"

end NumberError

/-- An integer in decimal, unless it is too long. -/
def Text.ofInt? (n : Int) : Except NumberError Text :=
  if n.natAbs < Nat.pow 10 digitLimit then .ok (ofInt n) else .error .writingLimit

end SignatureBridge
