import BrokerTenancy.Json.Basic
import BrokerTenancy.Number.Power

/-!
Number literals of JSON. A literal without point and exponent whose value fits a 64-bit word is an
integer. Every other literal is a floating-point number: its digits are taken into a 64-bit
significand as long as they fit, the significand is rounded to a double, and that is scaled by one
power of ten, so the result may be off by a unit in the last place. A literal beyond the largest
double has no value.
-/

namespace BrokerTenancy.Json

/-- A number literal, digit by digit. -/
structure Numeral where
  negative : Bool
  whole : List Nat
  fraction : List Nat
  exponent : Option (Bool × List Nat)
  deriving Repr

def digitOf (byte : UInt8) : Option Nat :=
  if 48 ≤ byte ∧ byte ≤ 57 then some (byte.toNat - 48) else none

/-- Reads the digits in front; returns them and the rest. -/
def takeDigits : List UInt8 → List Nat × List UInt8
  | [] => ([], [])
  | byte :: rest =>
      match digitOf byte with
      | none => ([], byte :: rest)
      | some digit =>
          let (digits, suffix) := takeDigits rest
          (digit :: digits, suffix)

/-- At least one digit, and no zero in front of another digit. -/
def isWholePart : List Nat → Bool
  | [] => false
  | [_] => true
  | digit :: _ => digit != 0

/-- Reads a point and the digits after it, if there is one. -/
def takeFraction : List UInt8 → Option (List Nat × List UInt8)
  | 46 :: rest =>
      match takeDigits rest with
      | ([], _) => none
      | read => some read
  | rest => some ([], rest)

/-- Reads an exponent up to the end of the literal, if there is one. -/
def takeExponent : List UInt8 → Option (Option (Bool × List Nat))
  | [] => some none
  | mark :: rest =>
      if mark = 101 ∨ mark = 69 then
        let (negative, rest) := match rest with
          | 45 :: rest => (true, rest)
          | 43 :: rest => (false, rest)
          | rest => (false, rest)
        match takeDigits rest with
        | ([], _) => none
        | (digits, []) => some (some (negative, digits))
        | _ => none
      else none

def numeralOf (literal : List UInt8) : Option Numeral := do
  let (negative, unsigned) := match literal with
    | 45 :: rest => (true, rest)
    | rest => (false, rest)
  let (whole, afterWhole) := takeDigits unsigned
  if !isWholePart whole then none
  let (fraction, afterFraction) ← takeFraction afterWhole
  let exponent ← takeExponent afterFraction
  some { negative, whole, fraction, exponent }

/-- Takes digits into a significand until the next one would pass 64 bits; returns the digits left
over. -/
def accumulate (significand : Nat) : List Nat → Nat × List Nat
  | [] => (significand, [])
  | digit :: rest =>
      if significand * 10 + digit < twoPower 64 then accumulate (significand * 10 + digit) rest
      else (significand, digit :: rest)

/-- Ten to a power of at most 308, as a double. -/
def tenTo (exponent : Nat) : Float := Float.ofScientific 1 false exponent

/-- Scales a double by a power of ten; powers below the range are taken in steps of 308. -/
def scale : Nat → Float → Int → Option Float
  | 0, _, _ => some 0.0
  | steps + 1, value, exponent =>
      if exponent.natAbs ≤ 308 then
        if 0 ≤ exponent then
          let scaled := value * tenTo exponent.toNat
          if scaled.isInf then none else some scaled
        else some (value / tenTo exponent.natAbs)
      else if value == 0.0 then some value
      else if 0 ≤ exponent then none
      else scale steps (value / tenTo 308) (exponent + 308)

/-- The double of a sign, a significand and a power of ten. -/
def floatingOf (negative : Bool) (significand : Nat) (exponent : Int) : Option Number := do
  let magnitude ← scale 4 (UInt64.ofNat significand).toFloat exponent
  some (.floating (if negative then -magnitude else magnitude).toBits)

/-- Largest magnitude of an exponent that is still added up. -/
def exponentLimit : Nat := 2147483647

namespace Numeral

/-- The value of a literal with a point or an exponent, or one that does not fit a word. -/
def floating (numeral : Numeral) : Option Number :=
  let (wholeSignificand, unread) := accumulate 0 numeral.whole
  let (significand, dropped) := accumulate wholeSignificand numeral.fraction
  let exponent : Int :=
    (unread.length : Int) - ((numeral.fraction.length : Int) - (dropped.length : Int))
  match numeral.exponent with
  | none => floatingOf numeral.negative significand exponent
  | some (negativeExponent, digits) =>
      let shift := digits.foldl (fun value digit => value * 10 + digit) 0
      if exponentLimit < shift then
        if significand ≠ 0 ∧ !negativeExponent then none
        else floatingOf numeral.negative 0 0
      else
        floatingOf numeral.negative significand
          (if negativeExponent then exponent - shift else exponent + shift)

/-- The value of a literal; none if it is out of range. -/
def value (numeral : Numeral) : Option Number :=
  match numeral.fraction, numeral.exponent, accumulate 0 numeral.whole with
  | [], none, (significand, []) =>
      if !numeral.negative then some (.natural significand)
      else if significand = 0 ∨ twoPower 63 < significand then numeral.floating
      else some (.negative significand)
  | _, _, _ => numeral.floating

end Numeral

end BrokerTenancy.Json
