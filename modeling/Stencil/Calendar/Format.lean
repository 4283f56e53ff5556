import Stencil.Calendar.Date
import Stencil.Text.Basic

/-!
# Date formats

A format is text with directives, each a percent sign and a letter, which stand for parts of a
date.  Some directives are short for several others, and those of numbers can say how a number is
filled up.
-/

namespace Stencil.Calendar

/-- How a number is filled up to its width. -/
inductive Pad where
  | none | zero | space
deriving DecidableEq, Inhabited

/-- The numbers of a date. -/
inductive Part where
  | year | century | yearOfCentury
  | isoYear | isoYearOfCentury
  | quarter | month | day | weekFromSunday | weekFromMonday | isoWeek
  | daysFromSunday | weekdayFromMonday | ordinal
  | hour | hour12 | minute | second | nanosecond | timestamp
deriving DecidableEq, Inhabited

/-- The other parts of a date. -/
inductive Word where
  | monthShort | monthLong | weekdayShort | weekdayLong
  | halfLower | halfUpper
  /-- The fraction of the second, with as many threes of digits as it needs. -/
  | fraction
  | fractionOf (digits : Nat) (point : Bool)
  | zoneName
  | offset | offsetColon | offsetSeconds | offsetHours
  | offsetLoose
  | standard
deriving DecidableEq, Inhabited

/-- An item of a format. -/
inductive Item where
  | literal (s : List Char)
  | number (part : Part) (pad : Pad)
  | word (w : Word)
deriving Inhabited

namespace Format

/-- The items that a directive is short for, or the single item it stands for. -/
def directive? (c : Char) : Option (List Item) :=
  let zero (p : Part) : Item := .number p .zero
  let space (p : Part) : Item := .number p .space
  let plain (p : Part) : Item := .number p .none
  let text (s : String) : Item := .literal s.toList
  match c with
  | 'A' => some [.word .weekdayLong]
  | 'B' => some [.word .monthLong]
  | 'C' => some [zero .century]
  | 'D' | 'x' => some [zero .month, text "/", zero .day, text "/", zero .yearOfCentury]
  | 'F' => some [zero .year, text "-", zero .month, text "-", zero .day]
  | 'G' => some [zero .isoYear]
  | 'H' => some [zero .hour]
  | 'I' => some [zero .hour12]
  | 'M' => some [zero .minute]
  | 'P' => some [.word .halfLower]
  | 'R' => some [zero .hour, text ":", zero .minute]
  | 'S' => some [zero .second]
  | 'T' | 'X' => some [zero .hour, text ":", zero .minute, text ":", zero .second]
  | 'U' => some [zero .weekFromSunday]
  | 'V' => some [zero .isoWeek]
  | 'W' => some [zero .weekFromMonday]
  | 'Y' => some [zero .year]
  | 'Z' => some [.word .zoneName]
  | 'a' => some [.word .weekdayShort]
  | 'b' | 'h' => some [.word .monthShort]
  | 'c' =>
    some [.word .weekdayShort, text " ", .word .monthShort, text " ", space .day, text " ",
      zero .hour, text ":", zero .minute, text ":", zero .second, text " ", zero .year]
  | 'd' => some [zero .day]
  | 'e' => some [space .day]
  | 'f' => some [zero .nanosecond]
  | 'g' => some [zero .isoYearOfCentury]
  | 'j' => some [zero .ordinal]
  | 'k' => some [space .hour]
  | 'l' => some [space .hour12]
  | 'm' => some [zero .month]
  | 'n' => some [text "\n"]
  | 'p' => some [.word .halfUpper]
  | 'q' => some [plain .quarter]
  | 'r' =>
    some [zero .hour12, text ":", zero .minute, text ":", zero .second, text " ", .word .halfUpper]
  | 's' => some [plain .timestamp]
  | 't' => some [text "\t"]
  | 'u' => some [plain .weekdayFromMonday]
  | 'v' => some [space .day, text "-", .word .monthShort, text "-", zero .year]
  | 'w' => some [plain .daysFromSunday]
  | 'y' => some [zero .yearOfCentury]
  | 'z' => some [.word .offset]
  | '+' => some [.word .standard]
  | '%' => some [text "%"]
  | _ => none

/-- The items of the directive that starts with the character `c`, and what is left. -/
def directiveAt? (c : Char) (s : List Char) : Option (List Item × List Char) :=
  match c, s with
  | ':', ':' :: ':' :: 'z' :: s => some ([.word .offsetHours], s)
  | ':', ':' :: 'z' :: s => some ([.word .offsetSeconds], s)
  | ':', 'z' :: s => some ([.word .offsetColon], s)
  | '.', '3' :: 'f' :: s => some ([.word (.fractionOf 3 true)], s)
  | '.', '6' :: 'f' :: s => some ([.word (.fractionOf 6 true)], s)
  | '.', '9' :: 'f' :: s => some ([.word (.fractionOf 9 true)], s)
  | '.', 'f' :: s => some ([.word .fraction], s)
  | '3', 'f' :: s => some ([.word (.fractionOf 3 false)], s)
  | '6', 'f' :: s => some ([.word (.fractionOf 6 false)], s)
  | '9', 'f' :: s => some ([.word (.fractionOf 9 false)], s)
  | c, s => (directive? c).map fun items => (items, s)

/-- The items of a directive with a mark that says how its number is filled up, which it must be the
only item to have. -/
def paddedAt? (pad : Pad) (s : List Char) : Option (List Item × List Char) :=
  match s with
  | [] => none
  | c :: s =>
    match directiveAt? c s with
    | some ([.number part _], rest) => some ([.number part pad], rest)
    | _ => none

/-- The items of what follows a percent sign, and what is left. -/
def afterPercent? : List Char → Option (List Item × List Char)
  | [] => none
  | '-' :: s => paddedAt? .none s
  | '0' :: s => paddedAt? .zero s
  | '_' :: s => paddedAt? .space s
  | '#' :: 'z' :: s => some ([.word .offsetLoose], s)
  | '#' :: _ => none
  | c :: s => directiveAt? c s

/-- The items of a format, read in at most `fuel` steps. -/
def readUpTo : (fuel : Nat) → List Char → Option (List Item)
  | _, [] => some []
  | 0, _ => none
  | fuel + 1, '%' :: s =>
    match afterPercent? s with
    | none => none
    | some (items, rest) => (readUpTo fuel rest).map (items ++ ·)
  | fuel + 1, c :: s => (readUpTo fuel s).map (.literal [c] :: ·)

/-- The items of a format, if all its directives are known. -/
def read? (s : List Char) : Option (List Item) := readUpTo s.length s

end Format

end Stencil.Calendar
