import Prism.Text.Literal

namespace Prism

structure Day where
  year : Nat
  month : Nat
  day : Nat
  deriving DecidableEq, Repr

/-- The time of day, with the distance from universal time in minutes where it is given. -/
structure Clock where
  hour : Nat
  minute : Nat
  second : Nat
  microsecond : Nat
  offset : Option Int
  deriving DecidableEq, Repr

inductive Moment where
  | date (day : Day)
  | instant (day : Day) (clock : Clock)
  deriving DecidableEq, Repr

namespace Day

def isLeap (year : Nat) : Bool :=
  year % 4 = 0 && (year % 100 ≠ 0 || year % 400 = 0)

def monthLength (year month : Nat) : Nat :=
  if month = 2 then (if isLeap year then 29 else 28)
  else if month = 4 || month = 6 || month = 9 || month = 11 then 30
  else 31

def isValid (day : Day) : Bool :=
  1 ≤ day.year && day.year ≤ 9999 && 1 ≤ day.month && day.month ≤ 12 && 1 ≤ day.day &&
    day.day ≤ monthLength day.year day.month

end Day

/-- The days up to a day, the day included. -/
def Day.number (day : Day) : Nat :=
  let years := day.year - 1
  365 * years + years / 4 - years / 100 + years / 400 +
    ((List.range day.month).drop 1).foldl (fun n month => n + Day.monthLength day.year month) 0 +
    day.day

/-- At least `width` decimal digits. -/
def paddedDigits (width n : Nat) : String :=
  let digits := Nat.toDigits 10 n
  String.ofList (List.replicate (width - digits.length) '0' ++ digits)

namespace Clock

def isValid (clock : Clock) : Bool :=
  clock.hour < 24 && clock.minute < 60 && clock.second < 60 && clock.microsecond < 1000000 &&
    clock.offset.all fun minutes => -1440 < minutes && minutes < 1440

def offsetText (minutes : Int) : String :=
  (if minutes < 0 then "-" else "+") ++ paddedDigits 2 (minutes.natAbs / 60) ++ ":" ++
    paddedDigits 2 (minutes.natAbs % 60)

end Clock

namespace Moment

def dayText (day : Day) : String :=
  paddedDigits 4 day.year ++ "-" ++ paddedDigits 2 day.month ++ "-" ++ paddedDigits 2 day.day

/-- The microseconds up to an instant, in universal time where the distance from it is given. -/
def microseconds (day : Day) (clock : Clock) : Int :=
  let minutes : Int := (day.number * 24 + clock.hour) * 60 + clock.minute
  (minutes - clock.offset.getD 0) * 60000000 + (clock.second * 1000000 + clock.microsecond : Nat)

/-- Whether two moments are the same. Instants are compared in universal time when both have it. -/
def same : Moment → Moment → Bool
  | .date a, .date b => a = b
  | .instant a c, .instant b d =>
    c.offset.isSome = d.offset.isSome && microseconds a c = microseconds b d
  | _, _ => false

def text : Moment → String
  | .date day => dayText day
  | .instant day clock =>
    dayText day ++ " " ++ paddedDigits 2 clock.hour ++ ":" ++ paddedDigits 2 clock.minute ++ ":" ++
      paddedDigits 2 clock.second ++
      (if clock.microsecond = 0 then "" else "." ++ paddedDigits 6 clock.microsecond) ++
      (clock.offset.map Clock.offsetText).getD ""

/-- A length of time as messages show it: whole days are taken off first, so that the seconds are
never negative. -/
def spanLiteral (minutes : Int) : String :=
  let seconds := minutes * 60
  let days := Int.fdiv seconds 86400
  let rest := seconds - days * 86400
  let parts := (if days = 0 then [] else ["days=" ++ days.repr]) ++
    (if rest = 0 then [] else ["seconds=" ++ rest.repr])
  "datetime.timedelta(" ++ (if minutes = 0 then "0" else String.intercalate ", " parts) ++ ")"

def offsetLiteral (minutes : Int) : String :=
  if minutes = 0 then "datetime.timezone.utc" else "datetime.timezone(" ++ spanLiteral minutes ++ ")"

def literal : Moment → String
  | .date day =>
    "datetime.date(" ++ String.intercalate ", " (([day.year, day.month, day.day]).map Nat.repr) ++ ")"
  | .instant day clock =>
    let seconds := if clock.microsecond ≠ 0 then [clock.second, clock.microsecond]
      else if clock.second ≠ 0 then [clock.second] else []
    let numbers := [day.year, day.month, day.day, clock.hour, clock.minute] ++ seconds
    "datetime.datetime(" ++ String.intercalate ", " (numbers.map Nat.repr ++
      (clock.offset.map fun minutes => ["tzinfo=" ++ offsetLiteral minutes]).getD []) ++ ")"

end Moment

end Prism
