import Stencil.Markdown.Emphasis
import Stencil.Markdown.Scan

/-!
# Reading inline markup

A paragraph is read from left to right.  Code, tags and characters by name are settled at once;
brackets wait for their partners, and a pair of brackets with a destination is a link or an image.
Emphasis is settled last, separately inside and outside of links.
-/

namespace Stencil.Markdown

open Stencil.Text

/-- An open bracket. -/
structure Bracket where
  /-- Whether an exclamation mark stands before it. -/
  image : Bool
  /-- Whether it can still start a link. -/
  active : Bool
  /-- The source behind the bracket. -/
  source : List Char
  /-- The pieces before the bracket, last first. -/
  before : List Piece

/-- What was read of a paragraph. -/
structure Reading where
  /-- The pieces behind the innermost open bracket, last first. -/
  pieces : List Piece := []
  /-- The open brackets, the innermost first. -/
  brackets : List Bracket := []

namespace Bracket

/-- The bracket as text. -/
def text (b : Bracket) : Piece := .inline (.text (if b.image then ['!', '['] else ['[']))

/-- The bracket after a link was found inside it: links do not contain links. -/
def retire (b : Bracket) : Bracket := { b with active := b.image }

end Bracket

namespace Reading

/-- Adds an inline. -/
def inline (r : Reading) (i : Inline) : Reading := { r with pieces := .inline i :: r.pieces }

/-- Adds text. -/
def text (r : Reading) (s : List Char) : Reading := if s.isEmpty then r else r.inline (.text s)

/-- Gives up the innermost open bracket: it is text. -/
def abandon (r : Reading) : Reading :=
  match r.brackets with
  | [] => r
  | b :: bs => ⟨r.pieces ++ b.text :: b.before, bs⟩

/-- Gives up all open brackets. -/
def abandonAll (r : Reading) : Reading :=
  r.brackets.foldl (fun r _ => r.abandon) r

/-! ## Marks -/

/-- Whether a run of marks between two characters can open emphasis.  The ends of a paragraph count
as blanks. -/
def canOpen (mark : Char) (length : Nat) (previous following : Option Char) : Bool :=
  match following with
  | none => false
  | some next =>
    if isBlank next then false
    else
      match previous with
      | none => true
      | some prev =>
        ((mark == '*' || (mark == '~' && 1 < length)) && !isPunctuation next) ||
          isBlank prev || isPunctuation prev

/-- Whether a run of marks between two characters can close emphasis. -/
def canClose (mark : Char) (length : Nat) (previous following : Option Char) : Bool :=
  match previous with
  | none => false
  | some prev =>
    if isBlank prev then false
    else
      match following with
      | none => true
      | some next =>
        ((mark == '*' || (mark == '~' && 1 < length)) && !isPunctuation prev) ||
          isBlank next || isPunctuation next

/-- Adds a run of marks, which is text where it can neither open nor close anything. -/
def marks (r : Reading) (mark : Char) (length : Nat) (previous following : Option Char) :
    Reading :=
  let opens := canOpen mark length previous following
  let closes := canClose mark length previous following
  if (opens || closes) && (mark != '~' || length ≤ 2) then
    { r with pieces := .run ⟨mark, length, length, opens, closes⟩ :: r.pieces }
  else r.text (List.replicate length mark)

/-! ## Links -/

/-- What a pair of brackets turned out to be. -/
inductive Found where
  | link (d : Destination)
  | note (name : List Char)
  | nothing

/-- What the text between two brackets refers to by itself. -/
def ownReference (refs : References) (own : List Char) : Found :=
  match noteName? own with
  | some name => if refs.notes.contains (normalLabel name) then .note name else .nothing
  | none =>
    if !isLabel own then .nothing
    else
      match refs.links.lookup (normalLabel own) with
      | some d => .link d
      | none => .nothing

/-- What a pair of brackets around the source text `own` is, and the source behind it; `behind` is
the source behind the closing bracket. -/
def reference (refs : References) (own behind : List Char) : Found × List Char :=
  match inlineDestination behind with
  | some (d, rest) => (.link d, rest)
  | none =>
    match behind with
    | '[' :: ']' :: rest =>
      match ownReference refs own with
      | .link d => (.link d, rest)
      | found => (found, behind)
    | _ =>
      match label behind with
      | some (other, rest) =>
        if (noteName? other).isSome then (ownReference refs own, behind)
        else
          match refs.links.lookup (normalLabel other) with
          | some d => (.link d, rest)
          | none => (.nothing, behind)
      | none => (ownReference refs own, behind)

/-- Closes the innermost open bracket before the source `behind`.  Gives the source that is left. -/
def closeBracket (refs : References) (r : Reading) (behind : List Char) : Reading × List Char :=
  match r.brackets with
  | [] => (r.text [']'], behind)
  | b :: bs =>
    let plain := (r.abandon.text [']'], behind)
    if !b.active then plain
    else
      match reference refs (b.source.take (b.source.length - behind.length - 1)) behind with
      | (.nothing, _) => plain
      | (.note name, rest) =>
        let outer : Reading := ⟨b.before, bs⟩
        ((if b.image then outer.text ['!'] else outer).inline (.note name), rest)
      | (.link d, rest) =>
        let body := Emphasis.settle r.pieces.reverse
        if b.image then ((⟨b.before, bs⟩ : Reading).inline (.image d.target d.title body), rest)
        else
          ((⟨b.before, bs.map Bracket.retire⟩ : Reading).inline (.link d.target d.title body), rest)

/-! ## The whole -/

/-- What stands in angle brackets, after the first of them: an address, or markup. -/
def angled? (s : List Char) : Option (Inline × List Char) :=
  match schemeAddress s with
  | some (a, rest) => some (.link a [] [.text a], rest)
  | none =>
    match mailAddress s with
    | some (a, rest) => some (.link ("mailto:".toList ++ a) [] [.text a], rest)
    | none => (taken? markup s).map fun t => (.html ('<' :: t.1), t.2)

/-- Whether a character has a meaning of its own. -/
def isSpecial (c : Char) : Bool :=
  ['\\', '\x60', '<', '&', '*', '_', '~', '[', ']', '!', '\n'].contains c || isTrailing c

/-- Reads one thing that starts with the character `c`; `previous` is the character before it.
Gives the source that is left. -/
def step (refs : References) (previous : Option Char) (r : Reading) (c : Char) (s : List Char) :
    Reading × List Char :=
  if c = '\\' then
    match s with
    | '\n' :: rest => (r.inline .hardBreak, rest)
    | d :: rest => if isAsciiPunctuation d then (r.text [d], rest) else (r.text [c], s)
    | [] => (r.text [c], s)
  else if c = '\x60' then
    let more := s.takeWhile (· == '\x60')
    let rest := s.drop more.length
    match closeCode (more.length + 1) [] 0 rest with
    | some (code, rest) => (r.inline (.code (codeText code)), rest)
    | none => (r.text (c :: more), rest)
  else if c = '<' then
    match angled? s with
    | some (i, rest) => (r.inline i, rest)
    | none => (r.text [c], s)
  else if c = '&' then
    match entity s with
    | some (t, rest) => (r.text t, rest)
    | none => (r.text [c], s)
  else if c = '*' || c = '_' || c = '~' then
    let more := s.takeWhile (· == c)
    let rest := s.drop more.length
    (r.marks c (more.length + 1) previous rest.head?, rest)
  else if c = '[' then (⟨[], ⟨false, true, s, r.pieces⟩ :: r.brackets⟩, s)
  else if c = '!' then
    match s with
    | '[' :: rest => (⟨[], ⟨true, true, rest, r.pieces⟩ :: r.brackets⟩, rest)
    | _ => (r.text [c], s)
  else if c = ']' then r.closeBracket refs s
  else if c = '\n' then (r.inline .softBreak, s)
  else if isTrailing c then
    let more := s.takeWhile isTrailing
    match s.drop more.length with
    | [] => (r, [])
    | '\n' :: rest => (r.inline (if more.isEmpty then .softBreak else .hardBreak), rest)
    | rest => (r.text (c :: more), rest)
  else
    let more := s.takeWhile fun d => !isSpecial d
    (r.text (c :: more), s.drop more.length)

/-- Reads a paragraph.  Each step takes at least one character, so `fuel` is the length. -/
def run (refs : References) : (fuel : Nat) → (previous : Option Char) → Reading →
    List Char → Reading
  | 0, _, r, _ => r
  | _, _, r, [] => r
  | fuel + 1, previous, r, c :: s =>
    let (r, rest) := r.step refs previous c s
    run refs fuel ((c :: s)[s.length - rest.length]?) r rest

end Reading

/-- The inline markup of a paragraph. -/
def Inline.read (refs : References) (s : List Char) : List Inline :=
  Emphasis.settle (Reading.run refs s.length none {} s).abandonAll.pieces.reverse

end Stencil.Markdown
