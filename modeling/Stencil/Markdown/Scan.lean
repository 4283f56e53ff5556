import Stencil.Data.Reader
import Stencil.Markdown.Entity
import Stencil.Markdown.Inline
import Stencil.Text.Case

/-!
# Small forms of inline markup

Readers for the forms that have no markup inside them: characters by name, code, tags, addresses,
and the destinations and labels of links.
-/

namespace Stencil.Markdown

open Stencil.Text

/-! ## Characters -/

/-- Whether a character is a space, a tab or a line feed. -/
def isGap (c : Char) : Bool := c == ' ' || c == '\t' || c == '\n'

/-- Whether a character ends a line invisibly: a blank of ASCII other than a line feed. -/
def isTrailing (c : Char) : Bool := c == ' ' || c == '\t' || c == '\x0b' || c == '\x0c'

/-- Whether a character is an ASCII letter or digit. -/
def isPlain (c : Char) : Bool := isAsciiLetter c || isAsciiDigit c

/-- The character of a code point, or the replacement character if there is none. -/
def charOf (n : Nat) : Char := if n = 0 || !n.isValidChar then '\uFFFD' else Char.ofNat n

/-- The value of a digit to base sixteen. -/
def hexDigit? (c : Char) : Option Nat :=
  if isAsciiDigit c then some (c.toNat - 0x30)
  else if 'a' ≤ c && c ≤ 'f' then some (c.toNat - 0x57)
  else if 'A' ≤ c && c ≤ 'F' then some (c.toNat - 0x37)
  else none

/-- Takes the rest of a character by number, with digits to the given base, at most `most`. -/
def numbered (base most : Nat) (isDigit : Char → Bool) : Reader (List Char) := do
  let ds ← Reader.run isDigit
  if ds.isEmpty || most < ds.length then Reader.refuse
  Reader.expect ';'
  pure [charOf (ds.foldl (fun n c => base * n + (hexDigit? c).getD 0) 0)]

/-- Takes the rest of a character by name or number, after the ampersand. -/
def entity : Reader (List Char) := do
  if ← Reader.skip? '#' then
    match ← Reader.peek? with
    | some 'x' | some 'X' => do
      let _ ← Reader.next
      numbered 16 6 fun c => (hexDigit? c).isSome
    | _ => numbered 10 7 isAsciiDigit
  else
    let name ← Reader.run isPlain
    Reader.expect ';'
    match entity? name with
    | some s => pure s
    | none => Reader.refuse

/-- The text that a text with escapes and named characters stands for. -/
def unescapeFrom : (fuel : Nat) → List Char → List Char
  | 0, s => s
  | _, [] => []
  | fuel + 1, '\\' :: c :: s =>
    if isAsciiPunctuation c then c :: unescapeFrom fuel s else '\\' :: unescapeFrom fuel (c :: s)
  | fuel + 1, '&' :: s =>
    match entity s with
    | some (t, rest) => t ++ unescapeFrom fuel rest
    | none => '&' :: unescapeFrom fuel s
  | fuel + 1, c :: s => c :: unescapeFrom fuel s

/-- The text that a text with escapes and named characters stands for. -/
def unescape (s : List Char) : List Char := unescapeFrom s.length s

/-! ## Code -/

/-- The code before the first run of exactly `n` backticks, and what follows that run.  `acc` is the
reversed text so far, which ends in `ticks` backticks. -/
def closeCode (n : Nat) (acc : List Char) (ticks : Nat) :
    List Char → Option (List Char × List Char)
  | [] => if ticks = n then some ((acc.drop n).reverse, []) else none
  | c :: s =>
    if c = '\x60' then closeCode n (c :: acc) (ticks + 1) s
    else if ticks = n then some ((acc.drop n).reverse, c :: s)
    else closeCode n (c :: acc) 0 s

/-- Code as it is shown: without line feeds, and without one space at both ends. -/
def codeText (s : List Char) : List Char :=
  let s := s.map fun c => if c = '\n' then ' ' else c
  if s.all (· == ' ') then s
  else if s.head? == some ' ' && s.getLast? == some ' ' then s.dropLast.drop 1
  else s

/-! ## Tags -/

/-- Takes everything up to and with `mark`. -/
def through (mark : List Char) : Reader Unit
  | [] => if mark.isEmpty then some ((), []) else none
  | c :: s =>
    if mark.isPrefixOf (c :: s) then some ((), (c :: s).drop mark.length) else through mark s

/-- Takes the name of a tag. -/
def tagName : Reader Unit := do
  if !isAsciiLetter (← Reader.next) then Reader.refuse
  let _ ← Reader.run fun c => isPlain c || c == '-'

/-- Takes the value of an attribute. -/
def propertyValue : Reader Unit := do
  match ← Reader.peek? with
  | some '"' => do
    Reader.expect '"'
    through ['"']
  | some '\'' => do
    Reader.expect '\''
    through ['\'']
  | _ => do
    let v ← Reader.run fun c => !(isGap c || ['"', '\'', '=', '<', '>', '\x60'].contains c)
    if v.isEmpty then Reader.refuse

/-- Takes an attribute after the blanks in front of it. -/
def property : Reader Unit := do
  let c ← Reader.next
  if !(isAsciiLetter c || c == '_' || c == ':') then Reader.refuse
  let _ ← Reader.run fun c => isPlain c || ['_', ':', '.', '-'].contains c
  let before ← get
  let _ ← Reader.run isGap
  if ← Reader.skip? '=' then
    let _ ← Reader.run isGap
    propertyValue
  else set before

/-- Takes the attributes of a tag and its end. -/
def properties : (fuel : Nat) → Reader Unit
  | 0 => Reader.refuse
  | fuel + 1 => do
    let gap ← Reader.run isGap
    match ← Reader.peek? with
    | some '>' => Reader.expect '>'
    | some '/' => Reader.word ['/', '>']
    | _ => do
      if gap.isEmpty then Reader.refuse
      property
      properties fuel

/-- Takes a tag that opens or closes an element, after the angle bracket. -/
def elementTag : Reader Unit := do
  if ← Reader.skip? '/' then
    tagName
    let _ ← Reader.run isGap
    Reader.expect '>'
  else
    tagName
    properties ((← Reader.left) + 1)

/-- Takes the rest of a comment. -/
def comment : Reader Unit := do
  match ← get with
  | '>' :: s => set s
  | '-' :: '>' :: s => set s
  | _ => through "-->".toList

/-- Takes markup that is passed on as it is, after the angle bracket. -/
def markup : Reader Unit := do
  match ← get with
  | '!' :: '-' :: '-' :: s => do
    set s
    comment
  | '?' :: s => do
    set s
    through "?>".toList
  | '!' :: s =>
    match afterPrefix? "[CDATA[".toList s with
    | some s => do
      set s
      through "]]>".toList
    | none => do
      set s
      if !isAsciiLetter (← Reader.next) then Reader.refuse
      through ['>']
  | _ => elementTag

/-- The text that a reader takes, and what it leaves. -/
def taken? (r : Reader Unit) (s : List Char) : Option (List Char × List Char) :=
  (r s).map fun x => (s.take (s.length - x.2.length), x.2)

/-! ## Addresses in angle brackets -/

/-- Takes an address with a scheme, after the angle bracket. -/
def schemeAddress : Reader (List Char) := do
  let scheme ← Reader.run fun c => isPlain c || c == '.' || c == '-' || c == '+'
  if scheme.length < 2 || 32 < scheme.length || !(scheme.head?.any isAsciiLetter) then Reader.refuse
  Reader.expect ':'
  let rest ← Reader.run fun c => 0x20 < c.toNat && c != '<' && c != '>'
  Reader.expect '>'
  pure (scheme ++ ':' :: rest)

/-- Whether a text is a part of the name of a host. -/
def isHostLabel (s : List Char) : Bool :=
  !s.isEmpty && s.length ≤ 63 && s.head? != some '-' && s.getLast? != some '-'

/-- Takes an address of a mailbox, after the angle bracket. -/
def mailAddress : Reader (List Char) := do
  let name ← Reader.run fun c => isPlain c || ".!#$%&'*+/=?^_\x60\x7b|\x7d~-".toList.contains c
  if name.isEmpty then Reader.refuse
  Reader.expect '@'
  let host ← Reader.run fun c => isPlain c || c == '-' || c == '.'
  if !(splitOn '.' host).all isHostLabel then Reader.refuse
  Reader.expect '>'
  pure (name ++ '@' :: host)

/-! ## Destinations -/

/-- How deep parentheses may nest in a destination. -/
def maxParentheses : Nat := 32

/-- Takes a destination without angle brackets, in which `depth` parentheses are open; `acc` is what
was taken, reversed. -/
def bareTarget (depth : Nat) (acc : List Char) : (s : List Char) → Option (List Char × List Char)
  | [] => if depth = 0 then some (acc.reverse, []) else none
  | '\\' :: c :: s =>
    if isAsciiPunctuation c then bareTarget depth (c :: '\\' :: acc) s
    else if c.toNat ≤ 0x20 then
      if depth = 0 then some (('\\' :: acc).reverse, c :: s) else none
    else bareTarget depth (c :: '\\' :: acc) s
  | c :: s =>
    if c.toNat ≤ 0x20 then if depth = 0 then some (acc.reverse, c :: s) else none
    else if c = '(' then
      if maxParentheses < depth then none else bareTarget (depth + 1) (c :: acc) s
    else if c = ')' then
      match depth with
      | 0 => some (acc.reverse, c :: s)
      | depth + 1 => bareTarget depth (c :: acc) s
    else bareTarget depth (c :: acc) s

/-- Takes the rest of a destination in angle brackets; `acc` is what was taken, reversed. -/
def angledTarget (acc : List Char) : (s : List Char) → Option (List Char × List Char)
  | [] => none
  | '\\' :: c :: s =>
    if isAsciiPunctuation c then angledTarget (c :: '\\' :: acc) s
    else if c = '\n' then none
    else angledTarget (c :: '\\' :: acc) s
  | c :: s =>
    if c = '>' then some (acc.reverse, s)
    else if c = '\n' || c = '<' then none
    else angledTarget (c :: acc) s

/-- Takes a destination as it is spelled. -/
def target : Reader (List Char) := do
  if ← Reader.skip? '<' then angledTarget [] else bareTarget 0 []

/-- Takes the rest of a title up to `close`; `acc` is what was taken, reversed. -/
def titleRest (close : Char) (acc : List Char) : (s : List Char) → Option (List Char × List Char)
  | [] => none
  | '\\' :: c :: s => titleRest close (c :: '\\' :: acc) s
  | c :: s =>
    if c = close then some (acc.reverse, s)
    else if c = '(' && close = ')' then none
    else titleRest close (c :: acc) s

/-- Takes a title in quotes or parentheses as it is spelled. -/
def title : Reader (List Char) := do
  match ← Reader.next with
  | '"' => titleRest '"' []
  | '\'' => titleRest '\'' []
  | '(' => titleRest ')' []
  | _ => Reader.refuse

/-- Takes a title if there is one. -/
def title? : Reader (Option (List Char)) := fun s =>
  match title s with
  | some (t, rest) => some (some t, rest)
  | none => some (none, s)

/-- Takes the destination of a link in parentheses, after the bracket that closes its text. -/
def inlineDestination : Reader Destination := do
  Reader.expect '('
  let _ ← Reader.run isGap
  let address ← target
  let _ ← Reader.run isGap
  let t ← title?
  let _ ← Reader.run isGap
  Reader.expect ')'
  pure ⟨unescape address, unescape (t.getD [])⟩

/-! ## Labels -/

/-- The greatest length of a label. -/
def maxLabel : Nat := 999

/-- Takes the rest of a label with its closing bracket; `acc` is what was taken, reversed. -/
def labelRest (acc : List Char) : (s : List Char) → Option (List Char × List Char)
  | [] => none
  | '\\' :: c :: s => labelRest (c :: '\\' :: acc) s
  | c :: s =>
    if c = '[' then none
    else if c = ']' then
      if acc.all isBlank || maxLabel < acc.length then none else some (acc.reverse, s)
    else labelRest (c :: acc) s

/-- Takes a label in brackets. -/
def label : Reader (List Char) := do
  Reader.expect '['
  labelRest []

/-- The form of a label in which labels are compared. -/
def normalLabel (s : List Char) : List Char := upper (lower (join [' '] (words s)))

/-- Whether a text is a label of its own. -/
def isLabel (s : List Char) : Bool := (labelRest [] (s ++ [']'])) matches some (_, [])

/-- The name of the footnote that a label refers to, if it refers to one. -/
def noteName? (s : List Char) : Option (List Char) :=
  match s with
  | '^' :: name => if name.isEmpty || name.any isBlank then none else some name
  | _ => none

end Stencil.Markdown
