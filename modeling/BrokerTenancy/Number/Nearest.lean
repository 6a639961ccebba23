/-!
The double nearest to a decimal. Decimals beyond every double's range are settled by their order of
magnitude, so that the powers of ten that are worked out stay small.
-/

namespace BrokerTenancy

/-- A decimal with a sign: `digits * 10 ^ exponent`. -/
structure SignedDecimal where
  negative : Bool
  digits : Nat
  exponent : Int
  deriving DecidableEq, Repr

namespace SignedDecimal

/-- Above `10 ^ 400` lies no double, below `10 ^ (-400)` none but zero. -/
def rangeLimit : Int := 400

/-- The double nearest to the magnitude; infinity if it is too large. -/
def nearestMagnitude (decimal : SignedDecimal) : Float :=
  let order : Int := decimal.exponent + (toString decimal.digits).length
  if decimal.digits = 0 ∨ order < -rangeLimit then 0.0
  else if rangeLimit < order then 1.0 / 0.0
  else Float.ofScientific decimal.digits (decimal.exponent < 0) decimal.exponent.natAbs

def nearest (decimal : SignedDecimal) : Float :=
  if decimal.negative then -decimal.nearestMagnitude else decimal.nearestMagnitude

end SignedDecimal

end BrokerTenancy
