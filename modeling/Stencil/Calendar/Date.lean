/-!
# The calendar

Days are counted from the first of January 1970 in the Gregorian calendar, which is followed
backward without end.
-/

namespace Stencil.Calendar

/-- A day of the calendar. -/
structure Date where
  year : Int
  month : Nat
  day : Nat
deriving DecidableEq, Inhabited

/-- The days of the week. -/
inductive Weekday where
  | monday | tuesday | wednesday | thursday | friday | saturday | sunday
deriving DecidableEq, Inhabited

namespace Weekday

/-- The number of a day, Monday being zero. -/
def fromMonday : Weekday → Nat
  | monday => 0
  | tuesday => 1
  | wednesday => 2
  | thursday => 3
  | friday => 4
  | saturday => 5
  | sunday => 6

/-- The day with a number, Monday being zero. -/
def ofNumber (n : Nat) : Weekday :=
  match n % 7 with
  | 0 => monday
  | 1 => tuesday
  | 2 => wednesday
  | 3 => thursday
  | 4 => friday
  | 5 => saturday
  | _ => sunday

/-- The number of a day, Sunday being zero. -/
def fromSunday (w : Weekday) : Nat := (w.fromMonday + 1) % 7

/-- The name of a day. -/
def name : Weekday → String
  | monday => "Monday"
  | tuesday => "Tuesday"
  | wednesday => "Wednesday"
  | thursday => "Thursday"
  | friday => "Friday"
  | saturday => "Saturday"
  | sunday => "Sunday"

end Weekday

/-- The name of a month, January being one. -/
def monthName (month : Nat) : String :=
  match month with
  | 1 => "January"
  | 2 => "February"
  | 3 => "March"
  | 4 => "April"
  | 5 => "May"
  | 6 => "June"
  | 7 => "July"
  | 8 => "August"
  | 9 => "September"
  | 10 => "October"
  | 11 => "November"
  | _ => "December"

/-- Whether a year has a leap day. -/
def isLeapYear (year : Int) : Bool := year % 4 == 0 && (year % 100 != 0 || year % 400 == 0)

/-- How many days a month has. -/
def daysInMonth (year : Int) (month : Nat) : Nat :=
  match month with
  | 2 => if isLeapYear year then 29 else 28
  | 4 | 6 | 9 | 11 => 30
  | _ => 31

/-- The first year of the calendar. -/
def firstYear : Int := -262143

/-- The last year of the calendar. -/
def lastYear : Int := 262142

namespace Date

/-- The day of a year, month and day, if there is one. -/
def of? (year : Int) (month day : Nat) : Option Date :=
  if firstYear ≤ year && year ≤ lastYear && 1 ≤ month && month ≤ 12 && 1 ≤ day &&
      day ≤ daysInMonth year month then
    some ⟨year, month, day⟩
  else none

/-- The days since the first of January 1970.  Years are counted from March, so that the leap day
comes last, and eras of 400 years all have the same length. -/
def toDays (d : Date) : Int :=
  let y := if d.month ≤ 2 then d.year - 1 else d.year
  let era := y.fdiv 400
  let yearOfEra := y - era * 400
  let fromMarch : Int := (d.month + 9) % 12
  let dayOfYear := (153 * fromMarch + 2) / 5 + d.day - 1
  let dayOfEra := yearOfEra * 365 + yearOfEra / 4 - yearOfEra / 100 + dayOfYear
  era * 146097 + dayOfEra - 719468

/-- The day that lies a number of days after the first of January 1970. -/
def ofDays (n : Int) : Date :=
  let z := n + 719468
  let era := z.fdiv 146097
  let dayOfEra := z - era * 146097
  let yearOfEra := (dayOfEra - dayOfEra / 1460 + dayOfEra / 36524 - dayOfEra / 146096) / 365
  let dayOfYear := dayOfEra - (365 * yearOfEra + yearOfEra / 4 - yearOfEra / 100)
  let fromMarch := (5 * dayOfYear + 2) / 153
  let day := dayOfYear - (153 * fromMarch + 2) / 5 + 1
  let month := if fromMarch < 10 then fromMarch + 3 else fromMarch - 9
  let year := yearOfEra + era * 400 + (if month ≤ 2 then 1 else 0)
  ⟨year, month.toNat, day.toNat⟩

/-- The day of the week. -/
def weekday (d : Date) : Weekday := .ofNumber ((d.toDays + 3) % 7).toNat

/-- The number of the day in its year, from one. -/
def ordinal (d : Date) : Nat := (d.toDays - (Date.mk d.year 1 1).toDays + 1).toNat

/-- The number of the week in its year, when the first `first` starts the week numbered one. -/
def weekFrom (first : Weekday) (d : Date) : Nat :=
  let since := (d.weekday.fromMonday + 7 - first.fromMonday) % 7
  (d.ordinal + 6 - since) / 7

/-- The year and number of the week that has most of its days in that year. -/
def isoWeek (d : Date) : Int × Nat :=
  let thursday := ofDays (d.toDays - d.weekday.fromMonday + 3)
  (thursday.year, (thursday.ordinal - 1) / 7 + 1)

end Date

/-- A time of the day.  The second sixty is a leap second. -/
structure Time where
  hour : Nat
  minute : Nat
  second : Nat
  nanosecond : Nat := 0
deriving DecidableEq, Inhabited

namespace Time

/-- The time of a clock, if it shows one. -/
def of? (hour minute second nanosecond : Nat) : Option Time :=
  if hour ≤ 23 && minute ≤ 59 && second ≤ 60 then some ⟨hour, minute, second, nanosecond⟩ else none

/-- The seconds since midnight, in which a leap second does not count. -/
def seconds (t : Time) : Nat := t.hour * 3600 + t.minute * 60 + min t.second 59

/-- The hour of a clock with twelve hours. -/
def hour12 (t : Time) : Nat := if t.hour % 12 = 0 then 12 else t.hour % 12

/-- Whether it is past noon. -/
def isAfternoon (t : Time) : Bool := 12 ≤ t.hour

end Time

/-- A time as a clock at some place shows it, with the place's distance from universal time in
seconds if that is known. -/
structure Moment where
  date : Date
  time : Time
  offset : Option Int := none
deriving DecidableEq, Inhabited

namespace Moment

/-- The seconds since the beginning of 1970 in universal time. -/
def timestamp (m : Moment) : Int := m.date.toDays * 86400 + m.time.seconds - m.offset.getD 0

/-- The moment of a number of seconds since the beginning of 1970, in universal time, if the
calendar reaches it. -/
def ofTimestamp? (seconds : Int) : Option Moment :=
  let date := Date.ofDays (seconds.fdiv 86400)
  let rest := (seconds.fmod 86400).toNat
  if firstYear ≤ date.year && date.year ≤ lastYear then
    some ⟨date, ⟨rest / 3600, rest / 60 % 60, rest % 60, 0⟩, some 0⟩
  else none

end Moment

end Stencil.Calendar
