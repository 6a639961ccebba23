import BrokerTenancy.Number.Nearest
import BrokerTenancy.Settings.Tree

/-!
Settings given by environment variables. A variable counts if its name begins with `NSPLANE__`, in
either case; two underscores in the rest of the name separate the steps of the setting's path.
-/

namespace BrokerTenancy

namespace Variable

def namePrefix : List Char := "nsplane__".toList

/-- Two underscores, from the left, become a point. -/
def separated : List Char → List Char
  | '_' :: '_' :: rest => '.' :: separated rest
  | character :: rest => character :: separated rest
  | [] => []

/-- The key of the setting that a variable of this name gives. -/
def settingKey (name : String) : Option String :=
  let lowered := name.toList.map Setting.lowerAscii
  if lowered.take namePrefix.length = namePrefix then
    some (String.ofList (separated (lowered.drop namePrefix.length)))
  else none

/-- Splits a sign off, if there is one; `true` is minus. -/
def splitSign : List Char → Bool × List Char
  | '-' :: rest => (true, rest)
  | '+' :: rest => (false, rest)
  | rest => (false, rest)

/-- The integer of 64 bits that a text is. -/
def integer? (text : String) : Option Int :=
  let (negative, digits) := splitSign text.toList
  Setting.integerOf negative digits

/-- The exponent at the end of a number; none is zero. -/
def exponent? : List Char → Option Int
  | [] => some 0
  | mark :: rest =>
      if mark = 'e' ∨ mark = 'E' then
        let (negative, digits) := splitSign rest
        if digits.isEmpty ∨ !digits.all Char.isDigit then none
        else
          let magnitude : Int := digits.foldl (fun value digit => value * 10 + (digit.toNat - 48)) 0
          some (if negative then -magnitude else magnitude)
      else none

/-- The decimal that a text without sign is: digits with a point anywhere among them or without
one, and an exponent or none. -/
def decimal? (negative : Bool) (characters : List Char) : Option SignedDecimal := do
  let (whole, rest) := characters.span Char.isDigit
  let (fraction, rest) := match rest with
    | '.' :: rest => rest.span Char.isDigit
    | rest => ([], rest)
  let digits := whole ++ fraction
  if digits.isEmpty then none
  let exponent ← exponent? rest
  some {
    negative
    digits := digits.foldl (fun value digit => value * 10 + (digit.toNat - 48)) 0
    exponent := exponent - fraction.length }

/-- The floating-point number that a text is; infinities and no number have names. -/
def floating? (text : String) : Option Float :=
  let (negative, unsigned) := splitSign text.toList
  let name := unsigned.map Char.toLower
  let signed (magnitude : Float) := if negative then -magnitude else magnitude
  if name = "inf".toList ∨ name = "infinity".toList then some (signed (1.0 / 0.0))
  else if name = "nan".toList then some (signed (0.0 / 0.0))
  else (decimal? negative unsigned).map (·.nearest)

/-- The setting that a variable's value gives: a truth value, an integer, a floating-point number,
or else a text. -/
def setting (value : String) : Setting :=
  let lowered := String.ofList (value.toList.map Char.toLower)
  if lowered = "true" then .boolean true
  else if lowered = "false" then .boolean false
  else match integer? value with
    | some number => .integer number
    | none => (floating? value).elim (.text value) .floating

/-- The assignments that variables make. -/
def assignments (environment : List (String × String)) : List (String × Setting) :=
  environment.filterMap fun (name, value) => (settingKey name).map fun key => (key, setting value)

end Variable

end BrokerTenancy
