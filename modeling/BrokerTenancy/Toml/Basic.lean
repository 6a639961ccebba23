/-!
Values of TOML documents, and the text of a date or time.
-/

namespace BrokerTenancy

namespace Toml

/-- A day of a four-digit year. -/
structure LocalDate where
  year : Nat
  month : Nat
  day : Nat
  deriving DecidableEq, Inhabited, Repr

/-- A time of day. The second may be the sixtieth. -/
structure LocalTime where
  hour : Nat
  minute : Nat
  second : Nat
  nanosecond : Nat
  deriving DecidableEq, Inhabited, Repr

/-- How far a wall clock is from universal time: not at all by definition, or by some minutes, which
are negative for a clock that is behind. -/
inductive ClockOffset where
  | universal
  | minutes (ahead : Int)
  deriving DecidableEq, Inhabited, Repr

/-- A date, a time of day, or both; only both together may have an offset. -/
inductive Moment where
  | day (date : LocalDate)
  | clock (time : LocalTime)
  | dayAndClock (date : LocalDate) (time : LocalTime) (offset : Option ClockOffset)
  deriving DecidableEq, Inhabited, Repr

/-- A number with leading zeros up to a width. -/
def padded (width value : Nat) : String :=
  let digits := toString value
  String.ofList (List.replicate (width - digits.length) '0') ++ digits

namespace LocalDate

def text (date : LocalDate) : String :=
  padded 4 date.year ++ "-" ++ padded 2 date.month ++ "-" ++ padded 2 date.day

end LocalDate

namespace LocalTime

/-- The fraction of the second without zeros at its end. -/
def fractionText (time : LocalTime) : String :=
  if time.nanosecond = 0 then ""
  else
    let digits := (padded 9 time.nanosecond).toList
    "." ++ String.ofList (digits.reverse.dropWhile (· = '0')).reverse

def text (time : LocalTime) : String :=
  padded 2 time.hour ++ ":" ++ padded 2 time.minute ++ ":" ++ padded 2 time.second ++
    time.fractionText

end LocalTime

namespace ClockOffset

def hoursAndMinutes (minutes : Nat) : String :=
  padded 2 (minutes / 60) ++ ":" ++ padded 2 (minutes % 60)

def text : ClockOffset → String
  | .universal => "Z"
  | .minutes ahead => (if ahead < 0 then "-" else "+") ++ hoursAndMinutes ahead.natAbs

end ClockOffset

namespace Moment

/-- Parts joined by `T`, with the offset at the end. -/
def text : Moment → String
  | .day date => date.text
  | .clock time => time.text
  | .dayAndClock date time offset =>
      date.text ++ "T" ++ time.text ++ offset.elim "" ClockOffset.text

end Moment

end Toml

/-- A value. The keys of a table are pairwise different and stand in the order of their first
mention. -/
inductive Toml where
  | text (value : String)
  | integer (value : Int)
  | floating (value : Float)
  | boolean (value : Bool)
  | moment (value : Toml.Moment)
  | array (items : List Toml)
  | table (fields : List (String × Toml))
  deriving Inhabited

end BrokerTenancy
