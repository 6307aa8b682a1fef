import PredictionMarket.Text

/-!
# Moments

A moment is a day of the calendar, perhaps with a time of that day. The time may say how far its
clock is ahead of universal time, in minutes.
-/

namespace PredictionMarket

/-- A time of a day. -/
structure Clock where
  /-- The hour. -/
  hour : Nat
  /-- The minute. -/
  minute : Nat
  /-- The second. -/
  second : Nat
  /-- The millionths of a second. -/
  micro : Nat
  /-- How many minutes the clock is ahead of universal time, if that is said. -/
  ahead : Option Int
  deriving DecidableEq

/-- A day, or a time of it. -/
structure Moment where
  /-- The year. -/
  year : Nat
  /-- The month. -/
  month : Nat
  /-- The day of the month. -/
  day : Nat
  /-- The time of the day. -/
  time : Option Clock
  deriving DecidableEq

/-- The number of minutes of a day. -/
def minutesOfDay : Nat := 1440

/-- Whether there is such a time. -/
def Clock.isReal (c : Clock) : Bool :=
  c.hour < 24 && c.minute < 60 && c.second < 60 && c.ahead.all (·.natAbs < minutesOfDay)

namespace Moment

/-- Whether a year has a leap day. -/
def isLeapYear (year : Nat) : Bool :=
  year % 4 = 0 && (year % 100 ≠ 0 || year % 400 = 0)

/-- The number of days of a month. -/
def daysOf (year month : Nat) : Nat :=
  if month = 2 then if isLeapYear year then 29 else 28
  else if [4, 6, 9, 11].contains month then 30
  else 31

/-- Whether there is such a moment. -/
def isReal (m : Moment) : Bool :=
  0 < m.year && 0 < m.month && m.month ≤ 12 && 0 < m.day && m.day ≤ daysOf m.year m.month &&
    m.time.all Clock.isReal

/-- The number of days up to a day, counted from the first one of year one. -/
def dayNumber (m : Moment) : Nat :=
  let past := m.year - 1
  let months := (List.range m.month).drop 1
  let elapsed := months.foldl (fun days month => days + daysOf m.year month) 0
  365 * past + past / 4 - past / 100 + past / 400 + elapsed + m.day

/-- The millionths of a second up to a time of a day by its own clock, or by universal time if the
distance from it is known. -/
def instant (m : Moment) (c : Clock) : Int :=
  let minutes : Int := minutesOfDay * m.dayNumber + 60 * c.hour + c.minute - c.ahead.getD 0
  (60 * minutes + c.second) * 1000000 + c.micro

/-- The sort of a moment: a day, a time by a clock whose distance from universal time is not known,
or one by a clock whose distance is known. Only moments of one sort come before or after each
other. -/
def sort (m : Moment) : Nat :=
  match m.time with
  | none => 0
  | some c => if c.ahead.isNone then 1 else 2

/-- Where a moment stands among those of its sort. -/
def position (m : Moment) : Int :=
  match m.time with
  | none => m.dayNumber
  | some c => m.instant c

/-- How the distance of a clock from universal time is written. -/
def writtenAhead (minutes : Int) : Text :=
  let seconds := 60 * (minutes % minutesOfDay)
  let day : Text := if minutes < 0 then "days=-1, " else ""
  if minutes = 0 then "datetime.timezone.utc"
  else "datetime.timezone(datetime.timedelta(" ++ day ++ "seconds=" ++ Text.ofInt seconds ++ "))"

/-- The numbers of a time that are written: the seconds only if they or their parts are not zero. -/
def numbersOf (c : Clock) : List Nat :=
  [c.hour, c.minute] ++
    if c.micro ≠ 0 then [c.second, c.micro] else if c.second ≠ 0 then [c.second] else []

/-- How a moment is written. -/
def written (m : Moment) : Text :=
  let date := [m.year, m.month, m.day]
  match m.time with
  | none => "datetime.date(" ++ Text.join ", " (date.map Text.ofNat) ++ ")"
  | some c =>
    let ahead := c.ahead.toList.map fun minutes => "tzinfo=" ++ writtenAhead minutes
    "datetime.datetime(" ++
      Text.join ", " ((date ++ numbersOf c).map Text.ofNat ++ ahead) ++ ")"

end Moment

end PredictionMarket
