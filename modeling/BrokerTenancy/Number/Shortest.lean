import BrokerTenancy.Number.Power

/-!
The shortest decimal that reads back as a given double. A finite double is an integer times a
power of two; the reals that round to it form an interval whose ends belong to it when the integer
is even. Of the decimal grids, from coarse to fine, the first one with a point in the interval is
taken, and on it the point nearest to the double.
-/

namespace BrokerTenancy.Shortest

/-- A positive finite double: `significand * 2 ^ exponent`. `atPower` marks the significands just
above a power of two, where the gap below is half the gap above. -/
structure Binary where
  significand : Nat
  exponent : Int
  atPower : Bool

/-- Splits the magnitude bits of a finite double. -/
def binaryOf (bits : UInt64) : Binary :=
  let fraction := (bits &&& 0xFFFFFFFFFFFFF).toNat
  let field := ((bits >>> 52) &&& 0x7FF).toNat
  if field = 0 then { significand := fraction, exponent := -1074, atPower := false }
  else
    { significand := fraction + twoPower 52
      exponent := (field : Int) - 1075
      atPower := fraction = 0 && 1 < field }

/-- A decimal: `digits * 10 ^ exponent`. -/
structure Decimal where
  digits : Nat
  exponent : Int
  deriving DecidableEq, Repr

/-- `value * 2 ^ power` as a fraction with the given ten-power taken out of it. -/
def fractionOf (value : Nat) (power exponentOfTen : Int) : Nat × Nat :=
  let numerator := value * twoPower power.toNat * tenPower (-exponentOfTen).toNat
  let denominator := twoPower (-power).toNat * tenPower exponentOfTen.toNat
  (numerator, denominator)

/-- Whether a grid point lies in the interval of the reals that round to the double. All values are
counted in quarters of the double's unit. -/
def reads (binary : Binary) (point : Nat) (exponentOfTen : Int) : Bool :=
  let low := 4 * binary.significand - (if binary.atPower then 1 else 2)
  let high := 4 * binary.significand + 2
  let (lowTop, bottom) := fractionOf low (binary.exponent - 2) exponentOfTen
  let (highTop, _) := fractionOf high (binary.exponent - 2) exponentOfTen
  if binary.significand % 2 = 0 then lowTop ≤ point * bottom && point * bottom ≤ highTop
  else lowTop < point * bottom && point * bottom < highTop

/-- The nearest reading point of one grid, if it has one. -/
def onGrid (binary : Binary) (exponentOfTen : Int) : Option Decimal :=
  let (top, bottom) := fractionOf binary.significand binary.exponent exponentOfTen
  let below := top / bottom
  let above := below + 1
  let belowReads := below ≠ 0 && reads binary below exponentOfTen
  let aboveReads := reads binary above exponentOfTen
  let nearerBelow := 2 * (top % bottom) < bottom || (2 * (top % bottom) = bottom && below % 2 = 0)
  if belowReads && (nearerBelow || !aboveReads) then some ⟨below, exponentOfTen⟩
  else if aboveReads then some ⟨above, exponentOfTen⟩
  else none

/-- The first grid, from coarse to fine, with a reading point. -/
def search (binary : Binary) : Nat → Int → Decimal
  | 0, exponentOfTen => ⟨(onGrid binary exponentOfTen).elim 0 (·.digits), exponentOfTen⟩
  | steps + 1, exponentOfTen =>
      match onGrid binary exponentOfTen with
      | some decimal => decimal
      | none => search binary steps (exponentOfTen - 1)

/-- The shortest decimal of a positive finite double. -/
def decimalOf (bits : UInt64) : Decimal := search (binaryOf bits) 640 310

/-- The digits of a decimal without zeros at the end, and the power of ten of the last one. -/
def trimmed (decimal : Decimal) : List Char × Int :=
  let digits := (toString decimal.digits).toList
  let kept := (digits.reverse.dropWhile (· = '0')).reverse
  (kept, decimal.exponent + ((digits.length : Int) - kept.length))

def zeros (count : Nat) : List Char := List.replicate count '0'

/-- All digits in place, without an exponent and without a point for whole numbers. -/
def placed (digits : List Char) (exponent : Int) : List Char :=
  if 0 ≤ exponent then digits ++ zeros exponent.toNat
  else
    let fractionDigits := exponent.natAbs
    if digits.length ≤ fractionDigits then
      ['0', '.'] ++ zeros (fractionDigits - digits.length) ++ digits
    else
      let whole := digits.length - fractionDigits
      digits.take whole ++ '.' :: digits.drop whole

/-- Text of a double without an exponent: `1`, `0.5`, `-0`, `inf`, `NaN`. -/
def positional (value : Float) : String :=
  if value.isNaN then "NaN"
  else
    let sign := if value.toBits >>> 63 = 1 then "-" else ""
    if value.isInf then sign ++ "inf"
    else if value == 0.0 then sign ++ "0"
    else
      let (digits, exponent) := trimmed (decimalOf (value.toBits &&& 0x7FFFFFFFFFFFFFFF))
      sign ++ String.ofList (placed digits exponent)

/-- Text of a finite double as a JSON number that is not an integer: `1.0`, `0.5`, `1e300`. -/
def scientific (value : Float) : String :=
  let sign := if value.toBits >>> 63 = 1 then "-" else ""
  if value == 0.0 then sign ++ "0.0"
  else
    let (digits, exponent) := trimmed (decimalOf (value.toBits &&& 0x7FFFFFFFFFFFFFFF))
    let point := exponent + digits.length
    if 0 ≤ exponent ∧ point ≤ 16 then sign ++ String.ofList (placed digits exponent) ++ ".0"
    else if -5 < point ∧ point ≤ 16 then sign ++ String.ofList (placed digits exponent)
    else
      let mantissa := match digits with
        | [digit] => [digit]
        | digit :: rest => digit :: '.' :: rest
        | [] => ['0']
      sign ++ String.ofList mantissa ++ "e" ++ toString (point - 1)

end BrokerTenancy.Shortest
