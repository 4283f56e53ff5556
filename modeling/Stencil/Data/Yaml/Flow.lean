import Stencil.Data.Reader
import Stencil.Data.Yaml.Scalar

/-!
# Flow style of YAML

Quoted texts, and lists and records in brackets.  Line feeds between the parts mean nothing, and a
line feed in a quoted text counts as a space.
-/

namespace Stencil.Yaml

/-! ## Quoted texts -/

/-- Whether a character is a space or a tab. -/
def isGap (c : Char) : Bool := c == ' ' || c == '\t'

/-- Takes the rest of a line break in a quoted text: blank lines stand for line feeds, and a single
break is a space. -/
def foldedBreak : (fuel : Nat) → (feeds : Nat) → Reader (List Char)
  | 0, _ => Reader.refuse
  | fuel + 1, feeds => do
    let _ ← Reader.run isGap
    if ← Reader.skip? '\n' then foldedBreak fuel (feeds + 1)
    else pure (if feeds = 0 then [' '] else List.replicate feeds '\n')

/-- A reversed text without the spaces and tabs at its end. -/
def dropGap (reversed : List Char) : List Char := reversed.dropWhile isGap

/-- Takes what is left of a text in single quotes; `acc` is what was taken, reversed. -/
def singleQuoted : (fuel : Nat) → (acc : List Char) → Reader (List Char)
  | 0, _ => Reader.refuse
  | fuel + 1, acc => do
    match ← Reader.next with
    | '\'' => if ← Reader.skip? '\'' then singleQuoted fuel ('\'' :: acc) else pure acc.reverse
    | '\n' =>
      let s ← foldedBreak (fuel + 1) 0
      singleQuoted fuel (s ++ dropGap acc)
    | c => singleQuoted fuel (c :: acc)

/-- Takes a number of digits to base sixteen. -/
def hexDigits : (count : Nat) → (n : Nat) → Reader Nat
  | 0, n => pure n
  | count + 1, n => do
    match digitValue? 16 (← Reader.next) with
    | some d => hexDigits count (16 * n + d)
    | none => Reader.refuse

/-- Takes the code point of an escape. -/
def codePoint (digits : Nat) : Reader (List Char) := do
  let n ← hexDigits digits 0
  if (0xD800 ≤ n && n ≤ 0xDFFF) || 0x10FFFF < n then Reader.refuse else pure [Char.ofNat n]

/-- Takes what stands behind a backslash. -/
def escape (fuel : Nat) : Reader (List Char) := do
  match ← Reader.next with
  | '0' => pure [Char.ofNat 0]
  | 'a' => pure ['\x07']
  | 'b' => pure ['\x08']
  | 't' | '\t' => pure ['\t']
  | 'n' => pure ['\n']
  | 'v' => pure ['\x0b']
  | 'f' => pure ['\x0c']
  | 'r' => pure ['\r']
  | 'e' => pure ['\x1b']
  | ' ' => pure [' ']
  | '"' => pure ['"']
  | '/' => pure ['/']
  | '\\' => pure ['\\']
  | 'N' => pure ['\u0085']
  | '_' => pure ['\u00a0']
  | 'L' => pure ['\u2028']
  | 'P' => pure ['\u2029']
  | 'x' => codePoint 2
  | 'u' => codePoint 4
  | 'U' => codePoint 8
  | '\n' => do
    let s ← foldedBreak fuel 0
    pure (if s = [' '] then [] else s)
  | _ => Reader.refuse

/-- Takes what is left of a text in double quotes; `acc` is what was taken, reversed. -/
def doubleQuoted : (fuel : Nat) → (acc : List Char) → Reader (List Char)
  | 0, _ => Reader.refuse
  | fuel + 1, acc => do
    match ← Reader.next with
    | '"' => pure acc.reverse
    | '\\' =>
      let s ← escape (fuel + 1)
      doubleQuoted fuel (s.reverse ++ acc)
    | '\n' =>
      let s ← foldedBreak (fuel + 1) 0
      doubleQuoted fuel (s ++ dropGap acc)
    | c => doubleQuoted fuel (c :: acc)

/-- Takes a quoted text, if one is next. -/
def quoted? : Reader (Option (List Char)) := do
  let n ← Reader.left
  if ← Reader.skip? '"' then return some (← doubleQuoted n [])
  else if ← Reader.skip? '\'' then return some (← singleQuoted n [])
  else pure none

/-! ## Brackets -/

/-- Takes blanks, line feeds and comments; `spaced` tells whether a comment may begin. -/
def gap : (fuel : Nat) → (spaced : Bool) → Reader Unit
  | 0, _ => pure ()
  | fuel + 1, spaced => do
    match ← Reader.peek? with
    | some '#' =>
      if spaced then
        let _ ← Reader.run (· != '\n')
        gap fuel true
      else pure ()
    | some c =>
      if isGap c || c == '\n' then
        let _ ← Reader.next
        gap fuel true
      else pure ()
    | none => pure ()

/-- Whether a character is a bracket or a comma. -/
def isFlowMark (c : Char) : Bool := [',', '[', ']', '\x7b', '\x7d'].contains c

/-- Takes a plain scalar in brackets; `acc` is what was taken, reversed. -/
def flowPlain : (fuel : Nat) → (acc : List Char) → Reader (List Char)
  | 0, _ => Reader.refuse
  | fuel + 1, acc => fun s =>
    match s with
    | [] => some (acc.reverse, [])
    | ':' :: rest =>
      let ends :=
        match rest with
        | [] => true
        | c :: _ => isGap c || c == '\n' || isFlowMark c
      if ends then some (acc.reverse, s) else flowPlain fuel (':' :: acc) rest
    | '#' :: rest =>
      if acc.head?.any isGap then some (acc.reverse, s) else flowPlain fuel ('#' :: acc) rest
    | c :: rest =>
      if isFlowMark c || c == '\n' then some (acc.reverse, s) else flowPlain fuel (c :: acc) rest

/-- Whether a plain scalar may start with a character. -/
def startsPlain (c : Char) : Bool :=
  !(['&', '*', '!', '|', '>', '%', '@', '\x60', '#', '"', '\''].contains c) && !isFlowMark c

mutual

/-- Takes a value in brackets, a text with the mark of a key behind it included. -/
def flowValue : (fuel : Nat) → Reader Datum
  | 0 => Reader.refuse
  | fuel + 1 => do
    if ← Reader.skip? '[' then return .list (← flowItems fuel)
    else if ← Reader.skip? '\x7b' then return .record (Table.ofList (← flowEntries fuel))
    else
      match ← quoted? with
      | some s => pure (.text (String.ofList s))
      | none => do
        match ← Reader.peek? with
        | some c => if !startsPlain c then Reader.refuse
        | none => Reader.refuse
        let s ← flowPlain (← Reader.left) []
        fun rest => (scalar? (Text.trimEnd s)).map fun d => (d, rest)

/-- Takes the items of a list up to its end.  An item may be a record with one entry. -/
def flowItems : (fuel : Nat) → Reader (List Datum)
  | 0 => Reader.refuse
  | fuel + 1 => do
    gap (← Reader.left) true
    if ← Reader.skip? ']' then pure []
    else
      let start ← get
      let item ← flowValue fuel
      gap (← Reader.left) false
      let item ←
        if ← Reader.skip? ':' then
          set start
          let e ← flowEntry fuel
          pure (.record [e])
        else pure item
      gap (← Reader.left) false
      if ← Reader.skip? ',' then return item :: (← flowItems fuel)
      else
        Reader.expect ']'
        pure [item]

/-- Takes the entries of a record up to its end. -/
def flowEntries : (fuel : Nat) → Reader (List (String × Datum))
  | 0 => Reader.refuse
  | fuel + 1 => do
    gap (← Reader.left) true
    if ← Reader.skip? '\x7d' then pure []
    else
      let e ← flowEntry fuel
      gap (← Reader.left) false
      if ← Reader.skip? ',' then return e :: (← flowEntries fuel)
      else
        Reader.expect '\x7d'
        pure [e]

/-- Takes a key and, if there is one, its value. -/
def flowEntry : (fuel : Nat) → Reader (String × Datum)
  | 0 => Reader.refuse
  | fuel + 1 => do
    let key ←
      match ← quoted? with
      | some s => pure s
      | none => do
        match ← Reader.peek? with
        | some c => if !startsPlain c then Reader.refuse
        | none => Reader.refuse
        let plain ← flowPlain (← Reader.left) []
        pure (Text.trimEnd plain)
    gap (← Reader.left) false
    if ← Reader.skip? ':' then
      gap (← Reader.left) true
      match ← Reader.peek? with
      | some ',' | some '\x7d' | some ']' => pure (String.ofList key, .null)
      | _ => return (String.ofList key, ← flowValue fuel)
    else pure (String.ofList key, .null)

end

end Stencil.Yaml
