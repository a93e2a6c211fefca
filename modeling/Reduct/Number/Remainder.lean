import Reduct.Number.Binary

/-!
# Remainders

The remainder of two numbers is exact: it is what is left of the first after taking away the
second a whole number of times, rounded toward zero. It has the sign of the first.
-/

namespace Reduct

/-- The remainder of two magnitudes, the second not zero. -/
def Binary.remainder (a b : Binary) : Binary :=
  let exponent := min a.exponent b.exponent
  ⟨(a.mantissa <<< (a.exponent - exponent).toNat) %
    (b.mantissa <<< (b.exponent - exponent).toNat), exponent⟩

/-- The remainder of `x` by `y`. Nothing is left to be said when `x` is not finite or `y` is
zero; a finite `x` is its own remainder by infinity. -/
def remainder (x y : Float) : Float :=
  if !x.isFinite || y.isNaN || y == 0 then 0.0 / 0.0
  else if y.isInf then x
  else
    let magnitude := ((Binary.ofFloat x).remainder (Binary.ofFloat y)).toFloat
    if isNegative x then -magnitude else magnitude

end Reduct
