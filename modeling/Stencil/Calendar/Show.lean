import Stencil.Calendar.Format

/-!
# Dates in writing

A date in a given format.  A part that the moment does not have, such as an unknown offset, cannot
be written.
-/

namespace Stencil.Calendar

/-- The number in decimal digits, filled up on the left to a width. -/
def padded (width : Nat) (pad : Pad) (s : List Char) : List Char :=
  match pad with
  | .none => s
  | .zero => List.replicate (width - s.length) '0' ++ s
  | .space => List.replicate (width - s.length) ' ' ++ s

/-- The digits of a number. -/
def digitsOf (n : Nat) : List Char := Nat.toDigits 10 n

/-- A number below 256 in two places.  Tens beyond nine run on past the digit nine. -/
def twoPlaces (n : Nat) (pad : Pad) : List Char :=
  let ones := Char.ofNat (0x30 + n % 10)
  match n / 10, pad with
  | 0, .none => [ones]
  | 0, .space => [' ', ones]
  | tens, _ => [Char.ofNat (0x30 + tens), ones]

/-- A number with a sign in front of its digits, filled up to a width. -/
def signedPlaces (width : Nat) (pad : Pad) (n : Int) : List Char :=
  let sign := if n < 0 then '-' else '+'
  let ds := digitsOf n.natAbs
  match pad with
  | .zero => sign :: padded (width - 1) .zero ds
  | pad => padded width pad (sign :: ds)

/-- A number with a sign in front of its digits if it is negative, filled up to a width. -/
def wholePlaces (width : Nat) (pad : Pad) (n : Int) : List Char :=
  if n < 0 then signedPlaces width pad n else padded width pad (digitsOf n.natAbs)

/-- A year in four places, or with a sign where it does not have four digits. -/
def yearPlaces (year : Int) (pad : Pad) : List Char :=
  if 0 ≤ year && year ≤ 9999 then padded 4 pad (digitsOf year.toNat)
  else signedPlaces 5 pad year

/-- The low eight bits of a number. -/
def lowByte (n : Int) : Nat := (n % 256).toNat

/-- A number of a moment. -/
def Part.show (part : Part) (pad : Pad) (m : Moment) : List Char :=
  let one (n : Nat) : List Char := [Char.ofNat (0x30 + n)]
  match part with
  | .year => yearPlaces m.date.year pad
  | .century => twoPlaces (lowByte (m.date.year.fdiv 100)) pad
  | .yearOfCentury => twoPlaces (lowByte (m.date.year.fmod 100)) pad
  | .isoYear => yearPlaces m.date.isoWeek.1 pad
  | .isoYearOfCentury => twoPlaces (lowByte (m.date.isoWeek.1.fmod 100)) pad
  | .quarter => one ((m.date.month + 2) / 3)
  | .month => twoPlaces m.date.month pad
  | .day => twoPlaces m.date.day pad
  | .weekFromSunday => twoPlaces (m.date.weekFrom .sunday) pad
  | .weekFromMonday => twoPlaces (m.date.weekFrom .monday) pad
  | .isoWeek => twoPlaces m.date.isoWeek.2 pad
  | .daysFromSunday => one m.date.weekday.fromSunday
  | .weekdayFromMonday => one (m.date.weekday.fromMonday + 1)
  | .ordinal => padded 3 pad (digitsOf m.date.ordinal)
  | .hour => twoPlaces m.time.hour pad
  | .hour12 => twoPlaces m.time.hour12 pad
  | .minute => twoPlaces m.time.minute pad
  | .second => twoPlaces m.time.second pad
  | .nanosecond => padded 9 pad (digitsOf m.time.nanosecond)
  | .timestamp => wholePlaces 9 pad m.timestamp

/-- The first `n` digits of the fraction of a second. -/
def fractionDigits (n : Nat) (m : Moment) : List Char :=
  (padded 9 .zero (digitsOf m.time.nanosecond)).take n

/-- The fraction of a second behind a point: no digits, or three, six or nine. -/
def shortFraction (m : Moment) : List Char :=
  if m.time.nanosecond = 0 then []
  else if m.time.nanosecond % 1000000 = 0 then '.' :: fractionDigits 3 m
  else if m.time.nanosecond % 1000 = 0 then '.' :: fractionDigits 6 m
  else '.' :: fractionDigits 9 m

/-- A sign and the hours of an offset. -/
def offsetStart (negative : Bool) (hours : Nat) : List Char :=
  (if negative then '-' else '+') :: twoPlaces hours .zero

/-- An offset in hours and minutes, rounded to the nearest minute. -/
def offsetMinutes (colon : Bool) (offset : Int) : List Char :=
  let minutes := (offset.natAbs + 30) / 60
  offsetStart (offset < 0) (minutes / 60) ++ (if colon then [':'] else []) ++
    twoPlaces (minutes % 60) .zero

/-- An offset in hours, minutes and seconds. -/
def offsetFull (offset : Int) : List Char :=
  let n := offset.natAbs
  offsetStart (offset < 0) (n / 3600) ++ ':' :: twoPlaces (n / 60 % 60) .zero ++
    ':' :: twoPlaces (n % 60) .zero

/-- The name of a zone that is known by its offset only. -/
def offsetName (offset : Int) : List Char :=
  if offset.natAbs % 60 = 0 then offsetMinutes true offset else offsetFull offset

/-- A moment in the standard form for exchange. -/
def standardForm (offset : Int) (m : Moment) : List Char :=
  yearPlaces m.date.year .zero ++ '-' :: twoPlaces m.date.month .zero ++
    '-' :: twoPlaces m.date.day .zero ++ 'T' :: twoPlaces m.time.hour .zero ++
    ':' :: twoPlaces m.time.minute .zero ++ ':' :: twoPlaces m.time.second .zero ++
    shortFraction m ++ offsetMinutes true offset

/-- A part of a moment that is no number. -/
def Word.show? (w : Word) (m : Moment) : Option (List Char) :=
  match w with
  | .monthShort => some ((monthName m.date.month).toList.take 3)
  | .monthLong => some (monthName m.date.month).toList
  | .weekdayShort => some (m.date.weekday.name.toList.take 3)
  | .weekdayLong => some m.date.weekday.name.toList
  | .halfLower => some (if m.time.isAfternoon then ['p', 'm'] else ['a', 'm'])
  | .halfUpper => some (if m.time.isAfternoon then ['P', 'M'] else ['A', 'M'])
  | .fraction => some (shortFraction m)
  | .fractionOf n true => some ('.' :: fractionDigits n m)
  | .fractionOf n false => some (fractionDigits n m)
  | .zoneName => m.offset.map offsetName
  | .offset => m.offset.map (offsetMinutes false)
  | .offsetColon => m.offset.map (offsetMinutes true)
  | .offsetSeconds => m.offset.map offsetFull
  | .offsetHours => m.offset.map fun o => offsetStart (o < 0) (o.natAbs / 3600)
  | .offsetLoose => none
  | .standard => m.offset.map fun o => standardForm o m

/-- An item of a moment. -/
def Item.show? (item : Item) (m : Moment) : Option (List Char) :=
  match item with
  | .literal s => some s
  | .number part pad => some (part.show pad m)
  | .word w => w.show? m

/-- A moment in a format, if the format is one and the moment has all its parts. -/
def Moment.format? (m : Moment) (format : List Char) : Option (List Char) := do
  let items ← Format.read? format
  let shown ← items.mapM fun item => item.show? m
  pure shown.flatten

end Stencil.Calendar
