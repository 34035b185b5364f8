import SignatureBridge.Number.Radix

/-!
# Double precision numbers

A `Binary64` is a number of the IEEE 754 binary format of that name, kept as data: a finite value is
a sign, a significand `m` and an exponent `e`, and stands for `m · 2^e`. All arithmetic here is
exact arithmetic on natural numbers followed by one rounding, to the nearest value and to an even
significand when two are equally near (`ofRatio`). So the text of a default, and whether an integer
fits, can be reasoned about without reference to the processor.

The form is canonical: the significand is below `2^53`, and it is at least `2^52` unless the
exponent is the least one, `-1074`. A magnitude that rounds to `2^1024` or more becomes an infinity.
-/

namespace SignatureBridge

/-- Division rounded to the nearest natural number, and to the even one when two are equally
near. -/
def roundDiv (num den : Nat) : Nat :=
  let floor := num / den
  let rest := num % den
  if 2 * rest > den ∨ (2 * rest = den ∧ floor % 2 = 1) then floor + 1 else floor

/-- A number of the binary64 format. -/
inductive Binary64 where
  | nan
  | infinity (negative : Bool)
  /-- The value `significand · 2^exponent` with a sign, which zero has as well. -/
  | finite (negative : Bool) (significand : Nat) (exponent : Int)
  deriving DecidableEq

namespace Binary64

/-- The least exponent. -/
def minExponent : Int := -1074

/-- The greatest exponent. -/
def maxExponent : Int := 971

/-- The zero of a sign. -/
def zero (negative : Bool) : Binary64 := finite negative 0 minExponent

/-- Whether `num / den` is at least `2^k`. -/
def reachesPowerOfTwo (num den : Nat) (k : Int) : Bool :=
  den * Nat.pow 2 k.toNat ≤ num * Nat.pow 2 (-k).toNat

/-- The exponent at which the significand of `num / den` has 53 bits, or the least one if that is
greater. -/
def exponentFor (num den : Nat) : Int :=
  let log : Int := num.log2 - den.log2
  max (if reachesPowerOfTwo num den log then log - 52 else log - 53) minExponent

/-- The value nearest to `num / den` with the given sign. -/
def ofRatio (negative : Bool) (num den : Nat) : Binary64 :=
  if num = 0 then zero negative
  else
    let e := exponentFor num den
    let m := roundDiv (num * Nat.pow 2 (-e).toNat) (den * Nat.pow 2 e.toNat)
    let carries : Bool := m = Nat.pow 2 53
    let e' := if carries then e + 1 else e
    if e' > maxExponent then infinity negative
    else finite negative (if carries then Nat.pow 2 52 else m) e'

/-- The value nearest to `n · 2^e`. -/
def ofScaled (n e : Int) : Binary64 :=
  ofRatio (n < 0) (n.natAbs * Nat.pow 2 e.toNat) (Nat.pow 2 (-e).toNat)

/-- The value nearest to an integer; none when the integer is beyond the finite values. -/
def ofInt? (n : Int) : Option Binary64 :=
  match ofRatio (n < 0) n.natAbs 1 with
  | infinity _ => none
  | x => some x

/-- The value nearest to `n · 10^e`. A value whose leading digit lies far outside the format's range
is settled by the place of that digit, so the powers of ten that are computed stay small. -/
def ofDecimal (negative : Bool) (n : Nat) (e : Int) : Binary64 :=
  let place : Int := (digits 10 n).length + e
  if n = 0 then zero negative
  else if 310 ≤ place then infinity negative
  else if place ≤ -325 then zero negative
  else ofRatio negative (n * Nat.pow 10 e.toNat) (Nat.pow 10 (-e).toNat)

/-- A zero of either sign. -/
def isZero : Binary64 → Bool
  | finite _ m _ => m = 0
  | _ => false

/-- The sign mark. -/
def isNegative : Binary64 → Bool
  | nan => false
  | infinity negative => negative
  | finite negative _ _ => negative

/-- The opposite value. -/
def neg : Binary64 → Binary64
  | nan => nan
  | infinity negative => infinity !negative
  | finite negative m e => finite (!negative) m e

/-- The signed significand of a finite value. -/
def signedSignificand (negative : Bool) (m : Nat) : Int := if negative then -(m : Int) else m

/-- The sum, rounded once. An exact zero has the sign that both terms agree on, else the positive
one. -/
def add : Binary64 → Binary64 → Binary64
  | nan, _ => nan
  | _, nan => nan
  | infinity s, infinity t => if s = t then infinity s else nan
  | infinity s, finite _ _ _ => infinity s
  | finite _ _ _, infinity t => infinity t
  | finite s m e, finite t n f =>
    let low := min e f
    let sum :=
      signedSignificand s (m * Nat.pow 2 (e - low).toNat) +
        signedSignificand t (n * Nat.pow 2 (f - low).toNat)
    if sum = 0 then zero (s && t) else ofScaled sum low

/-- The difference, rounded once. -/
def sub (x y : Binary64) : Binary64 := add x (neg y)

/-- The product, rounded once. -/
def mul : Binary64 → Binary64 → Binary64
  | nan, _ => nan
  | _, nan => nan
  | infinity s, y => if y.isZero then nan else infinity (s != y.isNegative)
  | x, infinity t => if x.isZero then nan else infinity (x.isNegative != t)
  | finite s m e, finite t n f =>
    if m * n = 0 then zero (s != t)
    else ofRatio (s != t) (m * n * Nat.pow 2 (e + f).toNat) (Nat.pow 2 (-(e + f)).toNat)

/-- The integer next to a finite value on the side of zero. -/
def truncate (negative : Bool) (m : Nat) (e : Int) : Int :=
  signedSignificand negative (m * Nat.pow 2 e.toNat / Nat.pow 2 (-e).toNat)

/-- Whether two values denote the same number; no number is denoted by `nan`, and the zeros
agree. -/
def sameNumber : Binary64 → Binary64 → Bool
  | infinity s, infinity t => s = t
  | finite s m e, finite t n f => (m = 0 && n = 0) || (s = t && m = n && e = f)
  | _, _ => false

/-- Whether a value denotes an integer. -/
def isInteger (x : Binary64) (n : Int) : Bool :=
  match x with
  | finite s m e => signedSignificand s (m * Nat.pow 2 e.toNat) = n * (Nat.pow 2 (-e).toNat : Nat)
  | _ => false

end Binary64

end SignatureBridge
