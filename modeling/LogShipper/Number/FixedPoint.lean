import LogShipper.Number.Binary64
import LogShipper.Text.CodePoint

/-!
# Numbers with one decimal place

Durations are shown with one place after the point.  The exact value is rounded, a half to the
even tenth, and the sign is kept even if only zeros remain.
-/

namespace LogShipper.Binary64

/-- The number with one decimal place. -/
def toTenths : Binary64 → Text
  | .finite negative rank =>
    let scaled := magnitude rank * 10
    let tenths := roundDiv scaled.num.natAbs scaled.den
    Text.ofChars ((if negative then ['-'] else []) ++ Nat.toDigits 10 (tenths / 10) ++
      '.' :: Nat.toDigits 10 (tenths % 10))
  | .infinite negative => if negative then "-inf" else "inf"
  | .nan => "nan"

end LogShipper.Binary64
