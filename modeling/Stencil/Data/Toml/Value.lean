import Stencil.Data.Json
import Stencil.Text.Basic

/-!
# Values of TOML

Texts, numbers, flags, dates, lists and records as they stand behind the sign of equality.  A date
becomes a record with one entry, which holds its text.
-/

namespace Stencil.Toml

/-! ## Gaps -/

/-- Takes spaces and tabs. -/
def gap : Reader Unit := do
  let _ ← Reader.run fun c => c == ' ' || c == '\t'

/-- Takes a comment, if one is next. -/
def comment : Reader Unit := do
  if (← Reader.peek?) == some '#' then
    let text ← Reader.run fun c => c != '\n' && c != '\r'
    if text.any fun c => c.toNat < 0x20 && c != '\t' then Reader.refuse

/-- Takes the end of a line, if it is next, and says whether it was. -/
def lineEnd? : Reader Bool := do
  if ← Reader.skip? '\n' then pure true
  else if (← Reader.peek?) == some '\r' then
    Reader.word ['\r', '\n']
    pure true
  else pure false

/-- Takes gaps, comments and ends of lines. -/
def blankLines : (fuel : Nat) → Reader Unit
  | 0 => pure ()
  | fuel + 1 => do
    gap
    comment
    if ← lineEnd? then blankLines fuel

/-! ## Texts -/

/-- The code point that digits to base sixteen spell. -/
def codePoint : (digits : Nat) → (n : Nat) → Reader Char
  | 0, n =>
    if (0xD800 ≤ n && n ≤ 0xDFFF) || 0x10FFFF < n then Reader.refuse else pure (Char.ofNat n)
  | digits + 1, n => do
    match Json.hexValue? (← Reader.next) with
    | some d => codePoint digits (16 * n + d)
    | none => Reader.refuse

/-- Takes what stands behind a backslash. -/
def escape : Reader Char := do
  match ← Reader.next with
  | 'b' => pure '\x08'
  | 't' => pure '\t'
  | 'n' => pure '\n'
  | 'f' => pure '\x0c'
  | 'r' => pure '\r'
  | '"' => pure '"'
  | '\\' => pure '\\'
  | 'u' => codePoint 4 0
  | 'U' => codePoint 8 0
  | _ => Reader.refuse

/-- Whether a character may stand in a text as it is. -/
def isTextChar (c : Char) : Bool := c == '\t' || (0x20 ≤ c.toNat && c.toNat != 0x7F)

/-- Takes what is left of a text between the given marks on one line. -/
def lineText (mark : Char) : (fuel : Nat) → Reader (List Char)
  | 0 => Reader.refuse
  | fuel + 1 => do
    let c ← Reader.next
    if c = mark then pure []
    else if c = '\\' && mark = '"' then
      let d ← escape
      return d :: (← lineText mark fuel)
    else if isTextChar c then return c :: (← lineText mark fuel)
    else Reader.refuse

/-- Takes gaps and ends of lines behind a backslash that ends a line. -/
def lineGap : (fuel : Nat) → Reader Unit
  | 0 => pure ()
  | fuel + 1 => do
    gap
    if ← lineEnd? then lineGap fuel

/-- Takes what is left of a text between marks that are written three times. -/
def blockText (mark : Char) : (fuel : Nat) → Reader (List Char)
  | 0 => Reader.refuse
  | fuel + 1 => fun s =>
    match s with
    | [] => none
    | c :: rest =>
      if c = mark && rest.take 2 = [mark, mark] then
        let rest := rest.drop 2
        let extra := (rest.takeWhile (· == mark)).length
        if extra ≤ 2 then some (List.replicate extra mark, rest.drop extra) else none
      else if c = '\\' && mark = '"' then
        match (rest.dropWhile fun d => d == ' ' || d == '\t') with
        | '\n' :: _ | '\r' :: _ => do
          let (_, rest) ← lineGap (rest.length + 1) rest
          blockText mark fuel rest
        | _ => do
          let (d, rest) ← escape rest
          let (more, rest) ← blockText mark fuel rest
          pure (d :: more, rest)
      else if c = '\r' && rest.head? != some '\n' then none
      else if c = '\n' || c = '\r' || isTextChar c then do
        let (more, rest) ← blockText mark fuel rest
        pure (c :: more, rest)
      else none

/-- Takes a text, if one is next; only some may go on over several lines. -/
def text? (blocks : Bool) : Reader (Option (List Char)) := fun s =>
  let whole (mark : Char) (rest : List Char) : Option (Option (List Char) × List Char) := do
    if blocks && rest.take 2 = [mark, mark] then
      let (_, rest) ← lineEnd? (rest.drop 2)
      let (t, rest) ← blockText mark (rest.length + 1) rest
      pure (some t, rest)
    else
      let (t, rest) ← lineText mark (rest.length + 1) rest
      pure (some t, rest)
  match s with
  | '"' :: rest => whole '"' rest
  | '\'' :: rest => whole '\'' rest
  | s => some (none, s)

/-! ## Keys -/

/-- Whether a character may stand in a bare key. -/
def isBareKey (c : Char) : Bool :=
  ('a' ≤ c && c ≤ 'z') || ('A' ≤ c && c ≤ 'Z') || Decimal.isDigit c || c == '_' || c == '-'

/-- Takes one part of a key. -/
def keyPart : Reader String := do
  match ← text? false with
  | some s => pure (String.ofList s)
  | none =>
    let s ← Reader.run isBareKey
    if s.isEmpty then Reader.refuse else pure (String.ofList s)

/-- Takes a key: parts with dots between them. -/
def key : (fuel : Nat) → Reader (List String)
  | 0 => Reader.refuse
  | fuel + 1 => do
    let part ← keyPart
    gap
    if ← Reader.skip? '.' then
      gap
      return part :: (← key fuel)
    else pure [part]

/-! ## Numbers and dates -/

/-- Digits without the underscores between them; each must stand between two digits. -/
def digits? (isDigit : Char → Bool) : List Char → Option (List Char)
  | [] => none
  | [c] => if isDigit c then some [c] else none
  | c :: '_' :: s => if isDigit c then (digits? isDigit s).map (c :: ·) else none
  | c :: s => if isDigit c then (digits? isDigit s).map (c :: ·) else none

/-- The value of digits to a base. -/
def natural (base : Nat) (ds : List Char) : Nat :=
  ds.foldl (fun n c => base * n + (Json.hexValue? c).getD 0) 0

/-- The number behind a mark for a base. -/
def based? (base : Nat) (s : List Char) : Option Datum := do
  let ds ← digits? (fun c => (Json.hexValue? c).any (· < base)) s
  pure (.int (← Integer.checked (natural base ds)))

/-- The digits of a number to base ten that does not start with an idle zero. -/
def plainDigits? (s : List Char) : Option (List Char) := do
  let ds ← digits? Decimal.isDigit s
  if ds.length > 1 && ds.head? == some '0' then none else pure ds

/-- The finite number that a text spells, its sign set aside. -/
def float? (s : List Char) : Option Float := do
  let (mantissa, exponent) ←
    match Text.splitBy (fun c => c == 'e' || c == 'E') s with
    | [m] => some (m, [])
    | [m, e] =>
      let (sign, ds) :=
        match e with
        | '-' :: ds => (['-'], ds)
        | '+' :: ds => ([], ds)
        | ds => ([], ds)
      (digits? Decimal.isDigit ds).map fun ds => (m, 'e' :: sign ++ ds)
    | _ => none
  let number ←
    match Text.splitOn '.' mantissa with
    | [whole] => plainDigits? whole
    | [whole, part] => do pure ((← plainDigits? whole) ++ '.' :: (← digits? Decimal.isDigit part))
    | _ => none
  Decimal.read? (number ++ exponent)

/-- Whether a text has the form that a pattern shows, where `0` stands for any digit. -/
def hasForm (pattern : String) (s : List Char) : Bool :=
  pattern.length == s.length &&
    (pattern.toList.zip s).all fun (p, c) => if p = '0' then Decimal.isDigit c else p = c

/-- The text of a date, a time or both, if a text spells one. -/
def date? (s : List Char) : Option (List Char) :=
  let s := s.map fun c => if c = 't' || c = ' ' then 'T' else if c = 'z' then 'Z' else c
  let isTime (t : List Char) : Bool :=
    hasForm "00:00:00" (t.take 8) &&
      match t.drop 8 with
      | [] => true
      | '.' :: ds => !ds.isEmpty && ds.all Decimal.isDigit
      | _ => false
  let isOffset (z : List Char) : Bool :=
    z = ['Z'] || hasForm "+00:00" z || hasForm "-00:00" z
  if hasForm "0000-00-00" s || isTime s then some s
  else if hasForm "0000-00-00T" (s.take 11) then
    let t := s.drop 11
    let time := t.takeWhile fun c => Decimal.isDigit c || c == ':' || c == '.'
    let zone := t.drop time.length
    if isTime time && (zone.isEmpty || isOffset zone) then some s else none
  else none

/-- The value that an unquoted word spells. -/
def word? (s : List Char) : Option Datum :=
  let unsigned :=
    match s with
    | '+' :: s | '-' :: s => s
    | s => s
  let negative := s.head? == some '-'
  match String.ofList s with
  | "true" => some (.bool true)
  | "false" => some (.bool false)
  | _ =>
    match String.ofList unsigned with
    | "inf" | "nan" => some .null
    | _ =>
      match s with
      | '0' :: 'x' :: ds => based? 16 ds
      | '0' :: 'o' :: ds => based? 8 ds
      | '0' :: 'b' :: ds => based? 2 ds
      | s =>
        match plainDigits? unsigned with
        | some ds =>
          let n : Int := natural 10 ds
          (Integer.checked (if negative then -n else n)).map .int
        | none =>
          match float? unsigned with
          | some x =>
            if x.isFinite then some (.float (if negative then -x else x)) else some .null
          | none =>
            (date? s).map fun t => .record [("$__toml_private_datetime", .text (String.ofList t))]

/-- Takes an unquoted word.  A space belongs to it where it parts a date from a time. -/
def word : Reader Datum := fun s =>
  let part (c : Char) : Bool := isBareKey c || c == '+' || c == '.' || c == ':'
  let first := s.takeWhile part
  let rest := s.drop first.length
  let longer :=
    match rest with
    | ' ' :: d :: more => if hasForm "0000-00-00" first && Decimal.isDigit d then
        first ++ ' ' :: (d :: more).takeWhile part else first
    | _ => first
  (word? longer).map fun d => (d, s.drop longer.length)

/-! ## Lists and records -/

/-- The entries with a value under a key of several parts, if nothing is there. -/
def insertAt (d : Datum) : List String → List (String × Datum) → Option (List (String × Datum))
  | [], _ => none
  | [k], entries => if Table.has entries k then none else some (entries ++ [(k, d)])
  | k :: ks, entries =>
    match entries.lookup k with
    | none => (insertAt d ks []).map fun inner => entries ++ [(k, .record inner)]
    | some (.record inner) =>
      (insertAt d ks inner).map fun inner => Table.insert k (.record inner) entries
    | some _ => none

mutual

/-- Takes a value. -/
def value : (fuel : Nat) → Reader Datum
  | 0 => Reader.refuse
  | fuel + 1 => do
    if ← Reader.skip? '[' then return .list (← items fuel)
    else if ← Reader.skip? '\x7b' then
      gap
      if ← Reader.skip? '\x7d' then pure (.record [])
      else return .record (← entries fuel [])
    else
      match ← text? true with
      | some s => pure (.text (String.ofList s))
      | none => word

/-- Takes the items of a list up to its end. -/
def items : (fuel : Nat) → Reader (List Datum)
  | 0 => Reader.refuse
  | fuel + 1 => do
    blankLines (← Reader.left)
    if ← Reader.skip? ']' then pure []
    else
      let d ← value fuel
      blankLines (← Reader.left)
      if ← Reader.skip? ',' then return d :: (← items fuel)
      else
        Reader.expect ']'
        pure [d]

/-- Takes the entries of a record up to its end. -/
def entries : (fuel : Nat) → List (String × Datum) → Reader (List (String × Datum))
  | 0, _ => Reader.refuse
  | fuel + 1, before => do
    gap
    let k ← key (← Reader.left)
    Reader.expect '='
    gap
    let d ← value fuel
    gap
    match insertAt d k before with
    | none => Reader.refuse
    | some now =>
      if ← Reader.skip? ',' then entries fuel now
      else
        Reader.expect '\x7d'
        pure now

end

end Stencil.Toml
