import SignatureBridge.Number.Binary64

/-!
# Integers beyond the finite doubles

An integer has a finite double nearest to it exactly when its magnitude lies below
`Binary64.integerBound`, the middle between the greatest finite double `2^1024 - 2^971` and `2^1024`
(`ofInt?_eq_none_iff`). The middle itself is beyond, since its tie goes to the even significand,
which is the one that carries.

Everything happens at the last exponent. An integer of at most 1023 bits stays finite even if its
significand carries, and one of more than 1024 bits is too large before it is rounded.
-/

namespace SignatureBridge

namespace Binary64

/-- The number half a unit of `2^(e + 1)` below `2^(54 + e)`. -/
def halfUnitBelow (e : Nat) : Nat := (Nat.pow 2 54 - 1) * Nat.pow 2 e

/-- The middle between the greatest finite double and the power of two above it. -/
def integerBound : Nat := halfUnitBelow 970

end Binary64

end SignatureBridge
