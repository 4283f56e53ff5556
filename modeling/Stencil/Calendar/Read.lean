import Stencil.Calendar.Date
import Stencil.Data.Reader
import Stencil.Integer
import Stencil.Text.Basic

/-!
# Reading dates

A date is read in the standard form for exchange, which has an offset, or in one of a few looser
forms, which have none.
-/

namespace Stencil.Calendar.Read

/-- Whether `c` is a decimal digit. -/
def isDigit (c : Char) : Bool := '0' ≤ c && c ≤ '9'

/-- Takes at least `least` and at most `most` digits. -/
def digits (least most : Nat) : Reader Nat := fun s =>
  let ds := (s.take most).takeWhile isDigit
  if ds.length < least then none else some (Integer.ofDigits ds, s.drop ds.length)

/-- Takes all digits that follow, of which there must be one. -/
def allDigits : Reader Nat := do
  let ds ← Reader.run isDigit
  if ds.isEmpty then Reader.refuse else pure (Integer.ofDigits ds)

/-- The answer, or a refusal. -/
def ofOption {α : Type} (a : Option α) : Reader α :=
  match a with
  | some a => pure a
  | none => Reader.refuse

/-! ## The standard form -/

/-- Takes a fraction of a second if one is next, in nanoseconds; digits beyond the ninth are
dropped. -/
def fraction : Reader Nat := do
  if ← Reader.skip? '.' then
    let ds ← Reader.run isDigit
    if ds.isEmpty then Reader.refuse
    else
      let kept := ds.take 9
      pure (Integer.ofDigits kept * Nat.pow 10 (9 - kept.length))
  else pure 0

/-- Takes an offset: a `Z`, or a sign, hours and minutes. -/
def offset : Reader Int := do
  match ← Reader.next with
  | 'Z' | 'z' => pure 0
  | '+' => pure ((← distance) : Int)
  | '-' | '−' => pure (-((← distance) : Int))
  | _ => Reader.refuse
where
  /-- Takes hours and minutes that stay below a day. -/
  distance : Reader Nat := do
    let hours ← digits 2 2
    Reader.expect ':'
    let minutes ← digits 2 2
    if 59 < minutes || 23 < hours then Reader.refuse else pure (hours * 3600 + minutes * 60)

/-- Takes a moment in the standard form. -/
def standard : Reader Moment := do
  let year ← digits 4 4
  Reader.expect '-'
  let month ← digits 2 2
  Reader.expect '-'
  let day ← digits 2 2
  match ← Reader.next with
  | 'T' | 't' | ' ' => pure ()
  | _ => Reader.refuse
  let hour ← digits 2 2
  Reader.expect ':'
  let minute ← digits 2 2
  Reader.expect ':'
  let second ← digits 2 2
  let nanosecond ← fraction
  let o ← offset
  let date ← ofOption (Date.of? year month day)
  let time ← ofOption (Time.of? hour minute second nanosecond)
  pure ⟨date, time, some o⟩

/-! ## Looser forms -/

/-- Takes blanks. -/
def blanks : Reader Unit := do let _ ← Reader.run Text.isBlank

/-- Takes blanks and a number of at most `most` digits. -/
def number (most : Nat) : Reader Nat := do
  blanks
  digits 1 most

/-- Takes blanks and a year: up to four digits, or any number of them behind a sign. -/
def year : Reader Int := do
  blanks
  if ← Reader.skip? '-' then pure (-((← allDigits) : Int))
  else if ← Reader.skip? '+' then pure ((← allDigits) : Int)
  else pure ((← digits 1 4) : Int)

/-- Takes year, month and day with dashes between them. -/
def date : Reader Date := do
  let y ← year
  Reader.expect '-'
  let m ← number 2
  Reader.expect '-'
  let d ← number 2
  ofOption (Date.of? y m d)

/-- Takes hours and minutes, and seconds if they are asked for, with colons between them. -/
def time (withSeconds : Bool) : Reader Time := do
  let h ← number 2
  Reader.expect ':'
  let m ← number 2
  if withSeconds then
    Reader.expect ':'
    ofOption (Time.of? h m (← number 2) 0)
  else ofOption (Time.of? h m 0 0)

/-- Takes a date and a time with the letter `T` between them. -/
def joined : Reader Moment := do
  let d ← date
  Reader.expect 'T'
  pure ⟨d, ← time true, none⟩

/-- Takes a date and a time with blanks between them, or nothing. -/
def spaced (withSeconds : Bool) : Reader Moment := do
  let d ← date
  blanks
  pure ⟨d, ← time withSeconds, none⟩

/-- Takes a date; the time is midnight. -/
def bare : Reader Moment := do pure ⟨← date, ⟨0, 0, 0, 0⟩, none⟩

end Stencil.Calendar.Read

namespace Stencil.Calendar

/-- The moment that a text spells. -/
def Moment.read? (s : List Char) : Option Moment :=
  let s := Text.trim s
  [Read.standard, Read.joined, Read.spaced true, Read.spaced false, Read.bare].findSome? fun form =>
    Reader.all form s

end Stencil.Calendar
