import SignatureBridge.Number.Binary64

/-!
# The shortest decimal of a double

Among the decimals that round to a given double, those with the fewest digits are the shortest, and
of these the library prints the nearest one (`shortestDecimal`). The search is by exact comparison.
The reals that round to `m · 2^e` form an interval around it, ends included when `m` is even; for
one digit, two digits and so on, the two neighbours of the value on that decimal grid are tested,
because a grid that meets the interval does so in one of them.

`Binary64.text` lays the digits out. Values from `10^-4` to below `10^16` are written positionally,
with at least one digit on either side of the point; others have one digit before the point and a
signed exponent of at least two digits.
-/

namespace SignatureBridge

/-- Whether `num / den` is at least `10^k`. -/
def reachesPowerOfTen (num den : Nat) (k : Int) : Bool :=
  den * Nat.pow 10 k.toNat ≤ num * Nat.pow 10 (-k).toNat

/-- The place of the leading decimal digit of a positive `num / den`: the power of ten at or below
it. The estimate from the binary lengths is at most one off. -/
def leadingPlace (num den : Nat) : Int :=
  let guess := ((num.log2 - den.log2 - 1 : Int) * 30103).fdiv 100000
  if reachesPowerOfTen num den (guess + 1) then guess + 1
  else if reachesPowerOfTen num den guess then guess
  else guess - 1

/-- An interval of reals with integer ends, all over one denominator, around a value. -/
structure RoundingInterval where
  low : Nat
  value : Nat
  high : Nat
  den : Nat
  closed : Bool

namespace RoundingInterval

/-- The reals that round to `m · 2^e`. Below a power of two the neighbours lie half as far apart. -/
def around (m : Nat) (e : Int) : RoundingInterval :=
  let gap := if m = Nat.pow 2 52 ∧ e ≠ Binary64.minExponent then 1 else 2
  let unit := Nat.pow 2 (e - 2).toNat
  { low := (4 * m - gap) * unit
    value := 4 * m * unit
    high := (4 * m + 2) * unit
    den := Nat.pow 2 (2 - e).toNat
    closed := m % 2 = 0 }

variable (r : RoundingInterval)

/-- Whether `c · 10^k` lies in the interval. -/
def holds (k : Int) (c : Nat) : Bool :=
  let x := c * Nat.pow 10 k.toNat * r.den
  let scale := Nat.pow 10 (-k).toNat
  if r.closed then r.low * scale ≤ x && x ≤ r.high * scale
  else r.low * scale < x && x < r.high * scale

/-- The multiple of `10^k` in the interval that is nearest to the value, and the even one of two
equally near. -/
def nearest? (k : Int) : Option Nat :=
  let num := r.value * Nat.pow 10 (-k).toNat
  let den := r.den * Nat.pow 10 k.toNat
  let below := num / den
  match r.holds k below, r.holds k (below + 1) with
  | false, false => none
  | true, false => some below
  | false, true => some (below + 1)
  | true, true => some (roundDiv num den)

end RoundingInterval

/-- The digits of the shortest decimal that rounds to `m · 2^e`, as a number, and the power of ten
that it multiplies. -/
def shortestDecimal (m : Nat) (e : Int) : Nat × Int :=
  let r := RoundingInterval.around m e
  let top := leadingPlace r.value r.den
  let onGrid (n : Nat) : Option (Nat × Int) :=
    let k := top - n
    (r.nearest? k).map fun c ↦ (c, k)
  ((List.range 18).findSome? onGrid).getD (0, 0)

namespace Binary64

/-- A decimal with the point `place` digits from the left end. -/
def positional (ds : Text) (place : Int) : Text :=
  if place ≤ 0 then "0." ++ Text.zeros (-place).toNat ++ ds
  else
    let whole := place.toNat
    if ds.length ≤ whole then ds ++ Text.zeros (whole - ds.length) ++ ".0"
    else ds.take whole ++ "." ++ ds.drop whole

/-- A decimal with one digit before the point and an exponent. -/
def scientific (ds : Text) (exponent : Int) : Text :=
  let fraction : Text := if ds.length ≤ 1 then [] else "." ++ ds.drop 1
  let sign : Text := if exponent < 0 then "-" else "+"
  ds.take 1 ++ fraction ++ "e" ++ sign ++ Text.padZeros 2 (Text.ofNat exponent.natAbs)

/-- The digits `ds · 10^k` in the layout that fits their size. -/
def layOut (ds : Text) (k : Int) : Text :=
  let place := ds.length + k
  if -4 < place ∧ place ≤ 16 then positional ds place else scientific ds (place - 1)

/-- The text of a double: the shortest decimal that reads back, or `nan`, `inf` and `-inf`. -/
def text : Binary64 → Text
  | nan => "nan"
  | infinity negative => if negative then "-inf" else "inf"
  | finite negative m e =>
    let sign : Text := if negative then "-" else []
    if m = 0 then sign ++ "0.0"
    else
      let (c, k) := shortestDecimal m e
      let ds := Text.ofNat c
      let kept := ds.trimEnd (· = 48)
      sign ++ layOut kept (k + (ds.length - kept.length : Nat))

end Binary64

end SignatureBridge
