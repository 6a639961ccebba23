import BrokerTenancy.Calendar.Date
import BrokerTenancy.Number.Nearest
import BrokerTenancy.Number.Power
import BrokerTenancy.Toml.Basic
import BrokerTenancy.Toml.Line

/-!
Numbers, dates and times of a TOML text. A value that begins like a date is a date or no value, and
the same holds for a time; all others that begin with a digit or a sign are numbers.
-/

namespace BrokerTenancy.Toml

/-- Reads exactly `count` digits. -/
def takeFixed (count : Nat) (characters : List Char) : Option (Nat × List Char) :=
  let digits := characters.take count
  if digits.length = count ∧ digits.all Char.isDigit then
    some (digits.foldl (fun value digit => value * 10 + (digit.toNat - 48)) 0,
      characters.drop count)
  else none

/-- Reads two digits of at most a given value. -/
def takeTwo (limit : Nat) (characters : List Char) : Option (Nat × List Char) := do
  let (value, rest) ← takeFixed 2 characters
  if value ≤ limit then some (value, rest) else none

def takeMark (mark : Char) : List Char → Option (List Char)
  | character :: rest => if character = mark then some rest else none
  | [] => none

def takeDate (characters : List Char) : Option (LocalDate × List Char) := do
  let (year, rest) ← takeFixed 4 characters
  let rest ← takeMark '-' rest
  let (month, rest) ← takeTwo 12 rest
  let rest ← takeMark '-' rest
  let (day, rest) ← takeTwo 31 rest
  if 1 ≤ day ∧ day ≤ daysInMonth year month then some ({ year, month, day }, rest) else none

/-- Reads a point and the digits after it as nanoseconds; digits after the ninth are dropped. -/
def takeNanoseconds : List Char → Option (Nat × List Char)
  | '.' :: rest =>
      match rest.span Char.isDigit with
      | ([], _) => none
      | (digits, suffix) => do
          let (value, _) ← takeFixed (digits.take 9).length digits
          some (value * tenPower (9 - digits.length), suffix)
  | rest => some (0, rest)

def takeTime (characters : List Char) : Option (LocalTime × List Char) := do
  let (hour, rest) ← takeTwo 23 characters
  let rest ← takeMark ':' rest
  let (minute, rest) ← takeTwo 59 rest
  let rest ← takeMark ':' rest
  let (second, rest) ← takeTwo 60 rest
  let (nanosecond, rest) ← takeNanoseconds rest
  some ({ hour, minute, second, nanosecond }, rest)

def takeHoursAndMinutes (characters : List Char) : Option (Nat × List Char) := do
  let (hours, rest) ← takeTwo 23 characters
  let rest ← takeMark ':' rest
  let (minutes, rest) ← takeTwo 59 rest
  some (hours * 60 + minutes, rest)

/-- Reads an offset, if one begins here. -/
def takeOffset : List Char → Option (Option ClockOffset × List Char)
  | '+' :: rest => do
      let (minutes, suffix) ← takeHoursAndMinutes rest
      some (some (.minutes minutes), suffix)
  | '-' :: rest => do
      let (minutes, suffix) ← takeHoursAndMinutes rest
      some (some (.minutes (-minutes)), suffix)
  | 'Z' :: rest => some (some .universal, rest)
  | 'z' :: rest => some (some .universal, rest)
  | rest => some (none, rest)

/-- Whether the characters begin with digits and a mark after them. -/
def beginsWith (digits : Nat) (mark : Char) (characters : List Char) : Bool :=
  ((takeFixed digits characters).bind fun read => takeMark mark read.2).isSome

/-- Reads the time after a date, if there is one. -/
def takeTimeOfDate (date : LocalDate) (characters : List Char) : Option (Moment × List Char) :=
  match characters with
  | separator :: rest =>
      if (separator = 'T' ∨ separator = 't' ∨ separator = ' ') ∧ beginsWith 2 ':' rest then do
        let (time, rest) ← takeTime rest
        let (offset, rest) ← takeOffset rest
        some (.dayAndClock date time offset, rest)
      else some (.day date, characters)
  | [] => some (.day date, [])

/-- Reads a date, a time, or a date with a time. -/
def takeMoment (characters : List Char) : Option (Moment × List Char) :=
  if beginsWith 2 ':' characters then do
    let (time, rest) ← takeTime characters
    some (.clock time, rest)
  else do
    let (date, rest) ← takeDate characters
    takeTimeOfDate date rest

/-- Reads digits, between which single underscores may stand. -/
def takeGrouped (isDigit : Char → Bool) : List Char → Option (List Char × List Char)
  | [] => none
  | [digit] => if isDigit digit then some ([digit], []) else none
  | digit :: next :: rest =>
      if !isDigit digit then none
      else if next = '_' then do
        let (digits, suffix) ← takeGrouped isDigit rest
        some (digit :: digits, suffix)
      else if isDigit next then do
        let (digits, suffix) ← takeGrouped isDigit (next :: rest)
        some (digit :: digits, suffix)
      else some ([digit], next :: rest)

/-- The number that digits stand for. -/
def valueOf (base : Nat) (digits : List Char) : Nat :=
  digits.foldl (fun value digit =>
    value * base + (if digit.isDigit then digit.toNat - 48 else digit.toLower.toNat - 87)) 0

/-- Reads a sign, if there is one; `true` is minus. -/
def takeSign : List Char → Bool × List Char
  | '-' :: rest => (true, rest)
  | '+' :: rest => (false, rest)
  | rest => (false, rest)

def withSign (negative : Bool) (magnitude : Nat) : Int :=
  if negative then -magnitude else magnitude

/-- An integer of 64 bits. -/
def integerOf (value : Int) : Option Toml :=
  if -(twoPower 63 : Int) ≤ value ∧ value < twoPower 63 then some (.integer value) else none

/-- Reads the digits of a whole number: no zero stands before another digit. -/
def takeWhole : List Char → Option (List Char × List Char)
  | '0' :: rest => some (['0'], rest)
  | rest => takeGrouped Char.isDigit rest

/-- Reads a point and the digits after it, if there is a point. -/
def takeFraction : List Char → Option (Option (List Char) × List Char)
  | '.' :: rest => do
      let (digits, suffix) ← takeGrouped Char.isDigit rest
      some (some digits, suffix)
  | rest => some (none, rest)

/-- Reads an exponent, if there is one. -/
def takeExponent : List Char → Option (Option Int × List Char)
  | [] => some (none, [])
  | mark :: rest =>
      if mark = 'e' ∨ mark = 'E' then do
        let (negative, rest) := takeSign rest
        let (digits, suffix) ← takeGrouped Char.isDigit rest
        some (some (withSign negative (valueOf 10 digits)), suffix)
      else some (none, mark :: rest)

/-- A floating-point number; one too large for a double is refused, unless it is negative. -/
def floatingOf (decimal : SignedDecimal) : Option Toml :=
  let value := decimal.nearest
  if value.isInf ∧ !decimal.negative then none else some (.floating value)

/-- Reads a decimal integer, or a number with a fraction or an exponent. -/
def takeDecimal (characters : List Char) : Option (Toml × List Char) := do
  let (negative, rest) := takeSign characters
  let (whole, rest) ← takeWhole rest
  let (fraction, rest) ← takeFraction rest
  let (exponent, rest) ← takeExponent rest
  let number ←
    match fraction, exponent with
    | none, none => integerOf (withSign negative (valueOf 10 whole))
    | fraction, exponent =>
        let digits := fraction.getD []
        floatingOf {
          negative
          digits := valueOf 10 (whole ++ digits)
          exponent := exponent.getD 0 - digits.length }
  some (number, rest)

/-- Reads an integer in another base after its mark. -/
def takeBased (base : Nat) (isDigit : Char → Bool) (characters : List Char) :
    Option (Toml × List Char) := do
  let (digits, rest) ← takeGrouped isDigit characters
  let value ← integerOf (valueOf base digits)
  some (value, rest)

def isHexDigit (character : Char) : Bool :=
  character.isDigit || ('a' ≤ character && character ≤ 'f') ||
    ('A' ≤ character && character ≤ 'F')

/-- Reads a word that has to stand here. -/
def takeWord (word : List Char) (characters : List Char) : Option (List Char) :=
  if characters.take word.length = word then some (characters.drop word.length) else none

/-- Reads an infinity or a value that is no number. -/
def takeSpecial (characters : List Char) : Option (Toml × List Char) :=
  let (negative, rest) := takeSign characters
  let magnitudes : List (List Char × Float) :=
    [(['i', 'n', 'f'], 1.0 / 0.0), (['n', 'a', 'n'], 0.0 / 0.0)]
  magnitudes.findSome? fun (word, magnitude) =>
    (takeWord word rest).map fun suffix =>
      (.floating (if negative then -magnitude else magnitude), suffix)

def takeNumber (characters : List Char) : Option (Toml × List Char) :=
  match characters with
  | '0' :: 'x' :: rest => takeBased 16 isHexDigit rest
  | '0' :: 'o' :: rest => takeBased 8 (fun digit => '0' ≤ digit && digit ≤ '7') rest
  | '0' :: 'b' :: rest => takeBased 2 (fun digit => digit == '0' || digit == '1') rest
  | _ =>
      match takeSpecial characters with
      | some special => some special
      | none => takeDecimal characters

/-- Reads a number, a date, a time or a truth value. -/
def takeScalar (characters : List Char) : Option (Toml × List Char) :=
  if beginsWith 4 '-' characters ∨ beginsWith 2 ':' characters then
    (takeMoment characters).map fun (value, rest) => (.moment value, rest)
  else
    match takeWord "true".toList characters, takeWord "false".toList characters with
    | some rest, _ => some (.boolean true, rest)
    | _, some rest => some (.boolean false, rest)
    | none, none => takeNumber characters

end BrokerTenancy.Toml
