import SignatureBridge.Number.Binary64

/-!
# Numbers with two decimal places

Durations in log messages have two places. The exact value of the double is rounded, a half to the
even neighbour, and a negative value keeps its sign even when it rounds to zero.
-/

namespace SignatureBridge.Binary64

/-- The text with two places after the point. -/
def fixedTwo : Binary64 → Text
  | nan => "nan"
  | infinity negative => if negative then "-inf" else "inf"
  | finite negative m e =>
    let hundredths := roundDiv (m * 100 * Nat.pow 2 e.toNat) (Nat.pow 2 (-e).toNat)
    let sign : Text := if negative then "-" else []
    sign ++ Text.ofNat (hundredths / 100) ++ "." ++ Text.padZeros 2 (Text.ofNat (hundredths % 100))

end SignatureBridge.Binary64
