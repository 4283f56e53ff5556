import Stencil.Data.Datum
import Stencil.Data.Reader
import Stencil.Decimal.Reading
import Stencil.Decimal.Written
import Stencil.Text.Quoted

/-!
# JSON

Reading and writing JSON.  A number without a fraction and without an exponent is an integer as long
as it has 64 bits, with or without a sign.  Any other number is gathered into an integer below
`2 ^ 64`, digits that no longer fit being dropped, and then scaled by a power of ten.
-/

namespace Stencil.Json

/-! ## Numbers -/

/-- The first integer that unsigned 64 bits cannot hold. -/
def unsignedEnd : Nat := 18446744073709551616

/-- The integer of the digits in front that fit into 64 bits, and how many digits do not. -/
def gather : (ds : List Char) → (n : Nat) → Nat × Nat
  | [], n => (n, 0)
  | d :: ds, n =>
    let m := 10 * n + (d.toNat - 0x30)
    if m < unsignedEnd then gather ds m else (n, ds.length + 1)

/-- `n * 10 ^ e` with one rounding for the conversion and one for the scaling.  Beyond the table of
powers up to `10 ^ 308` the number is first divided by that power. -/
def scaled (n : Nat) (e : Int) : Option Float :=
  let power (k : Nat) : Float := Float.ofScientific 1 false k
  let x := Float.ofNat n
  if 0 ≤ e then
    if e ≤ 308 then
      let y := x * power e.toNat
      if y == Decimal.infinity then none else some y
    else if n = 0 then some 0.0 else none
  else if -308 ≤ e then some (x / power (-e).toNat)
  else if -616 ≤ e then some (x / power 308 / power (-e - 308).toNat)
  else some (x / power 308 / power 308 / power (min 308 (-e - 616).toNat))

/-- Takes a run of digits, of which there must be one. -/
def digits : Reader (List Char) := do
  let ds ← Reader.run Decimal.isDigit
  if ds.isEmpty then Reader.refuse else pure ds

/-- Takes an exponent if one is next. -/
def exponent : Reader (Option Int) := do
  match ← Reader.peek? with
  | some 'e' | some 'E' =>
    let _ ← Reader.next
    let negative ← Reader.skip? '-'
    if !negative then let _ ← Reader.skip? '+'
    let n : Int := Integer.ofDigits (← digits)
    pure (some (if negative then -n else n))
  | _ => pure none

/-- Takes a number. -/
def number : Reader Datum := do
  let negative ← Reader.skip? '-'
  let whole ← digits
  if whole.head? == some '0' && whole.length > 1 then Reader.refuse
  let (n, dropped) := gather whole 0
  let fraction ← if ← Reader.skip? '.' then digits else pure []
  let e? ← exponent
  let sign (x : Float) : Float := if negative then -x else x
  if fraction.isEmpty && e?.isNone && dropped = 0 then
    if !negative then pure (.int n)
    else if 0 < n && n ≤ 9223372036854775808 then pure (.int (-(n : Int)))
    else pure (.float (-(Float.ofNat n)))
  else
    let (m, left) := gather fraction n
    let shift : Int := dropped - (fraction.length - left : Nat)
    match scaled m (shift + e?.getD 0) with
    | some x => pure (.float (sign x))
    | none => Reader.refuse

/-! ## Texts -/

/-- The value of a digit to base sixteen. -/
def hexValue? (c : Char) : Option Nat :=
  if '0' ≤ c && c ≤ '9' then some (c.toNat - 0x30)
  else if 'a' ≤ c && c ≤ 'f' then some (c.toNat - 0x57)
  else if 'A' ≤ c && c ≤ 'F' then some (c.toNat - 0x37)
  else none

/-- Takes four digits to base sixteen. -/
def hex4 : Reader Nat := do
  let digit : Reader Nat := do
    match hexValue? (← Reader.next) with
    | some d => pure d
    | none => Reader.refuse
  let a ← digit
  let b ← digit
  let c ← digit
  let d ← digit
  pure (((a * 16 + b) * 16 + c) * 16 + d)

/-- Takes what stands after a backslash. -/
def escaped : Reader Char := do
  match ← Reader.next with
  | '"' => pure '"'
  | '\\' => pure '\\'
  | '/' => pure '/'
  | 'b' => pure '\x08'
  | 'f' => pure '\x0c'
  | 'n' => pure '\n'
  | 'r' => pure '\r'
  | 't' => pure '\t'
  | 'u' =>
    let n ← hex4
    if 0xDC00 ≤ n && n ≤ 0xDFFF then Reader.refuse
    else if 0xD800 ≤ n && n ≤ 0xDBFF then
      Reader.word ['\\', 'u']
      let m ← hex4
      if 0xDC00 ≤ m && m ≤ 0xDFFF then
        pure (Char.ofNat (0x10000 + (n - 0xD800) * 0x400 + (m - 0xDC00)))
      else Reader.refuse
    else pure (Char.ofNat n)
  | _ => Reader.refuse

/-- Takes the rest of a text up to its closing quote; `acc` holds what was read, reversed. -/
def textRest : (fuel : Nat) → (acc : List Char) → Reader String
  | 0, _ => Reader.refuse
  | fuel + 1, acc => do
    match ← Reader.next with
    | '"' => pure (String.ofList acc.reverse)
    | '\\' => textRest fuel ((← escaped) :: acc)
    | c => if c.toNat < 0x20 then Reader.refuse else textRest fuel (c :: acc)

/-- Takes a text. -/
def text : Reader String := do
  Reader.expect '"'
  textRest (← Reader.left) []

/-! ## Values -/

/-- Takes the blanks that may stand between any two parts. -/
def blanks : Reader Unit := do
  let _ ← Reader.run fun c => c == ' ' || c == '\n' || c == '\t' || c == '\r'

/-- Takes items with commas between them up to the closing character. -/
def items {α : Type} (item : Reader α) (close : Char) : (fuel : Nat) → Reader (List α)
  | 0 => Reader.refuse
  | fuel + 1 => do
    let a ← item
    blanks
    if ← Reader.skip? ',' then
      blanks
      pure (a :: (← items item close fuel))
    else
      Reader.expect close
      pure [a]

/-- Takes a value that nests at most `depth` lists and records. -/
def value : (depth : Nat) → Reader Datum
  | 0 => do
    match ← Reader.peek? with
    | some '[' | some '\x7b' => Reader.refuse
    | _ => scalar
  | depth + 1 => do
    match ← Reader.peek? with
    | some '[' =>
      let _ ← Reader.next
      blanks
      if ← Reader.skip? ']' then pure (.list [])
      else pure (.list (← items (value depth) ']' (← Reader.left)))
    | some '\x7b' =>
      let _ ← Reader.next
      blanks
      if ← Reader.skip? '\x7d' then pure (.record [])
      else
        let entry : Reader (String × Datum) := do
          let key ← text
          blanks
          Reader.expect ':'
          blanks
          pure (key, ← value depth)
        pure (.record (Table.ofList (← items entry '\x7d' (← Reader.left))))
    | _ => scalar
where
  /-- Takes a value that is neither a list nor a record. -/
  scalar : Reader Datum := do
    match ← Reader.peek? with
    | some '"' => pure (.text (← text))
    | some 't' => Reader.word "true".toList; pure (.bool true)
    | some 'f' => Reader.word "false".toList; pure (.bool false)
    | some 'n' => Reader.word "null".toList; pure .null
    | _ => number

/-- The value that a JSON document holds. -/
def read? (s : List Char) : Option Datum :=
  Reader.all (do blanks; let d ← value 127; blanks; pure d) s

/-! ## Writing -/

/-- A character inside a JSON text. -/
def writtenChar (c : Char) : List Char :=
  if c = '"' then ['\\', '"']
  else if c = '\\' then ['\\', '\\']
  else if c = '\n' then ['\\', 'n']
  else if c = '\r' then ['\\', 'r']
  else if c = '\t' then ['\\', 't']
  else if c = '\x08' then ['\\', 'b']
  else if c = '\x0c' then ['\\', 'f']
  else if c.toNat < 0x20 then '\\' :: 'u' :: Text.hex 4 c.toNat
  else [c]

/-- A text in JSON. -/
def writtenText (s : String) : List Char := '"' :: s.toList.flatMap writtenChar ++ ['"']

mutual

/-- A value in JSON, without blanks. -/
def write : Datum → List Char
  | .null => "null".toList
  | .bool true => "true".toList
  | .bool false => "false".toList
  | .int n => (toString n).toList
  | .float x => (Decimal.writtenAsData x).toList
  | .text s => writtenText s
  | .list items => '[' :: writeItems items ++ [']']
  | .record entries => '\x7b' :: writeEntries entries ++ ['\x7d']

/-- The items of a list with commas between them. -/
def writeItems : List Datum → List Char
  | [] => []
  | [d] => write d
  | d :: ds => write d ++ ',' :: writeItems ds

/-- The entries of a record with commas between them. -/
def writeEntries : List (String × Datum) → List Char
  | [] => []
  | [(k, d)] => writtenText k ++ ':' :: write d
  | (k, d) :: es => writtenText k ++ ':' :: write d ++ ',' :: writeEntries es

end

end Stencil.Json
