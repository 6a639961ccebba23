import BrokerTenancy.Calendar.Date
import BrokerTenancy.Number.Power
import BrokerTenancy.Text.Blank

/-!
Instants in universal time with nanoseconds, and their RFC 3339 text. Reading is lenient: parts may
have a single digit, blanks may stand around them, the letters `T`, `Z` and `UTC` may have either
case, and a second may be the sixtieth. An offset is required, in whole minutes and less than a
day, and is taken off. Writing uses the fewest of 0, 3, 6 or 9 fraction digits that are exact.
-/

namespace BrokerTenancy

/-- A point in time by its parts in universal time. The second is 60 in a leap second. -/
structure Instant where
  date : Date
  hour : Nat
  minute : Nat
  second : Nat
  nanosecond : Nat
  deriving DecidableEq, Inhabited, Repr

namespace Instant

def digitValue (character : Char) : Option Nat :=
  if character.isDigit then some (character.toNat - '0'.toNat) else none

/-- Reads up to `limit` digits onto a value already begun. -/
def takeDigitsOnto (value : Nat) : Nat → List Char → Nat × List Char
  | 0, rest => (value, rest)
  | _ + 1, [] => (value, [])
  | limit + 1, character :: rest =>
      match digitValue character with
      | some digit => takeDigitsOnto (value * 10 + digit) limit rest
      | none => (value, character :: rest)

/-- Reads one to `limit` digits. -/
def takeNumber (limit : Nat) : List Char → Option (Nat × List Char)
  | [] => none
  | character :: rest => do
      let digit ← digitValue character
      some (takeDigitsOnto digit (limit - 1) rest)

/-- Reads one or two digits after blanks. -/
def takePart (characters : List Char) : Option (Nat × List Char) :=
  takeNumber 2 (trimFront characters)

/-- Reads a year after blanks: up to four digits, or any number of them after a sign. -/
def takeYear (characters : List Char) : Option (Int × List Char) :=
  match trimFront characters with
  | '-' :: rest => do
      let (value, suffix) ← takeNumber rest.length rest
      some (-(value : Int), suffix)
  | '+' :: rest => do
      let (value, suffix) ← takeNumber rest.length rest
      some ((value : Int), suffix)
  | rest => do
      let (value, suffix) ← takeNumber 4 rest
      some ((value : Int), suffix)

def takeMark (mark : Char) (characters : List Char) : Option (List Char) :=
  match trimFront characters with
  | [] => none
  | character :: rest => if character = mark then some rest else none

/-- Reads the letter or blank between date and time. -/
def takeSeparator : List Char → Option (List Char)
  | character :: rest =>
      if character = 'T' ∨ character = 't' ∨ character = ' ' then some rest else none
  | [] => none

/-- Reads a point and the digits after it as nanoseconds; digits after the ninth are dropped. -/
def takeFraction : List Char → Option (Nat × List Char)
  | '.' :: rest => do
      let (value, suffix) ← takeNumber 9 rest
      let count := rest.length - suffix.length
      some (value * tenPower (9 - count), suffix.dropWhile (·.isDigit))
  | rest => some (0, rest)

/-- Reads the two hour digits and two minute digits of an offset, with any colons and blanks
between them. The result is in minutes. -/
def takeOffsetDigits : List Char → Option (Nat × List Char)
  | tens :: ones :: rest => do
      let hourTens ← digitValue tens
      let hourOnes ← digitValue ones
      match rest.dropWhile fun character => character = ':' || isBlank character with
      | tens :: ones :: suffix => do
          let minuteTens ← digitValue tens
          let minuteOnes ← digitValue ones
          if minuteTens < 6 then
            some ((hourTens * 10 + hourOnes) * 60 + minuteTens * 10 + minuteOnes, suffix)
          else none
      | _ => none
  | _ => none

/-- Reads the offset from universal time, in minutes. -/
def takeOffset (characters : List Char) : Option (Int × List Char) :=
  match trimFront characters with
  | first :: rest =>
      if first.toLower = 'u' ∧ (rest.take 2).map Char.toLower = ['t', 'c'] then
        some (0, rest.drop 2)
      else if first = 'Z' ∨ first = 'z' then some (0, rest)
      else if first = '+' then do
        let (minutes, suffix) ← takeOffsetDigits rest
        some ((minutes : Int), suffix)
      else if first = '-' ∨ first = '−' then do
        let (minutes, suffix) ← takeOffsetDigits rest
        some (-(minutes : Int), suffix)
      else none
  | [] => none

/-- Takes an offset of less than a day off a wall-clock time. -/
def toUniversal (wall : Instant) (offset : Int) : Option Instant := do
  if 1440 ≤ offset.natAbs then none
  let minutes : Int := (wall.hour * 60 + wall.minute : Nat) - offset
  let date ←
    if minutes < 0 then wall.date.previous
    else if 1440 ≤ minutes then wall.date.next
    else some wall.date
  let minuteOfDay := (minutes % 1440).toNat
  some { wall with date, hour := minuteOfDay / 60, minute := minuteOfDay % 60 }

def ofText (text : String) : Option Instant := do
  let (year, rest) ← takeYear text.toList
  let rest ← takeMark '-' rest
  let (month, rest) ← takePart rest
  let rest ← takeMark '-' rest
  let (day, rest) ← takePart rest
  let rest ← takeSeparator rest
  let (hour, rest) ← takePart rest
  let rest ← takeMark ':' rest
  let (minute, rest) ← takePart rest
  let rest ← takeMark ':' rest
  let (second, rest) ← takePart rest
  let (nanosecond, rest) ← takeFraction rest
  let (offset, rest) ← takeOffset rest
  let date : Date := { year, month, day }
  if !(trimFront rest).isEmpty then none
  else if !date.isValid then none
  else if 24 ≤ hour ∨ 60 ≤ minute ∨ 61 ≤ second then none
  else toUniversal { date, hour, minute, second, nanosecond } offset

/-- A number with leading zeros up to a width. -/
def padded (width value : Nat) : List Char :=
  let digits := (toString value).toList
  List.replicate (width - digits.length) '0' ++ digits

/-- Four digits for the years 0 to 9999, otherwise a sign and at least four digits. -/
def yearText (year : Int) : List Char :=
  if 0 ≤ year ∧ year ≤ 9999 then padded 4 year.toNat
  else (if year < 0 then '-' else '+') :: padded 4 year.natAbs

/-- The fewest of 0, 3, 6 or 9 digits that are exact. -/
def fractionText (nanosecond : Nat) : List Char :=
  if nanosecond = 0 then []
  else if nanosecond % 1000000 = 0 then '.' :: padded 3 (nanosecond / 1000000)
  else if nanosecond % 1000 = 0 then '.' :: padded 6 (nanosecond / 1000)
  else '.' :: padded 9 nanosecond

def toText (instant : Instant) : String :=
  String.ofList
    (yearText instant.date.year ++ '-' :: padded 2 instant.date.month ++
      '-' :: padded 2 instant.date.day ++ 'T' :: padded 2 instant.hour ++
      ':' :: padded 2 instant.minute ++ ':' :: padded 2 instant.second ++
      fractionText instant.nanosecond ++ ['Z'])

end Instant

end BrokerTenancy
