/-!
Days of the proleptic Gregorian calendar, in the years from -262143 to 262142. Year zero is the
year before year one.
-/

namespace BrokerTenancy

def minimumYear : Int := -262143

def maximumYear : Int := 262142

def isLeapYear (year : Int) : Bool :=
  year % 4 == 0 && (year % 100 != 0 || year % 400 == 0)

/-- The number of days of a month; zero for a number that is no month. -/
def daysInMonth (year : Int) (month : Nat) : Nat :=
  match month with
  | 1 | 3 | 5 | 7 | 8 | 10 | 12 => 31
  | 4 | 6 | 9 | 11 => 30
  | 2 => if isLeapYear year then 29 else 28
  | _ => 0

structure Date where
  year : Int
  month : Nat
  day : Nat
  deriving DecidableEq, Inhabited, Repr

namespace Date

def isValid (date : Date) : Bool :=
  minimumYear ≤ date.year && date.year ≤ maximumYear &&
    1 ≤ date.day && date.day ≤ daysInMonth date.year date.month

/-- The day after, if the calendar has one. -/
def next (date : Date) : Option Date :=
  let following : Date :=
    if date.day < daysInMonth date.year date.month then { date with day := date.day + 1 }
    else if date.month < 12 then { date with month := date.month + 1, day := 1 }
    else { year := date.year + 1, month := 1, day := 1 }
  if following.isValid then some following else none

/-- The day before, if the calendar has one. -/
def previous (date : Date) : Option Date :=
  let preceding : Date :=
    if 1 < date.day then { date with day := date.day - 1 }
    else if 1 < date.month then
      { date with month := date.month - 1, day := daysInMonth date.year (date.month - 1) }
    else { year := date.year - 1, month := 12, day := 31 }
  if preceding.isValid then some preceding else none

end Date

end BrokerTenancy
