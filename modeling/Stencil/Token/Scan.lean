import Stencil.Error
import Stencil.Text.Basic

/-!
# Scanning

A template is cut into pieces: texts, comments, verbatim blocks and tags.  A piece is read at a
character and answers the tokens it yields together with the number of further characters it takes,
so the scanner goes on with what is left, which is always shorter.
-/

namespace Stencil.Token

open Stencil.Text

/-- A refusal at a place of the template `name`. -/
def refuse {α : Type} (name : String) (p : Place) (fault : LexFault) : Except Error α :=
  .error (.lex (.of name p) fault)

/-- The longest prefix that `stop` does not interrupt.  `stop` is asked about the rest from each
character on, and `acc` holds what was passed, reversed. -/
def runUntil (stop : List Char → Bool) (acc : List Char) : List Char → List Char
  | [] => acc.reverse
  | c :: s => if stop (c :: s) then acc.reverse else runUntil stop (c :: acc) s

/-! ## Verbatim blocks -/

/-- The word that opens a verbatim block. -/
def verbatimWord : List Char := "verbatim".toList

/-- The word that closes a verbatim block. -/
def endVerbatimWord : List Char := "endverbatim".toList

/-- A marker of a verbatim block: whether it trims the text on its two sides, and its length. -/
structure Marker where
  trimsBefore : Bool
  trimsAfter : Bool
  length : Nat

/-- Whether a trim mark is next, and what is left. -/
def dash : List Char → Bool × List Char
  | '-' :: s => (true, s)
  | s => (false, s)

/-- The marker with the word `word` that starts here, if there is one. -/
def markerAt? (word s : List Char) : Option Marker := do
  let inner ← afterPrefix? ['\x7b', '%'] s
  let (before, inner) := dash inner
  let inner ← afterPrefix? word (trimStart inner)
  if inner.head?.any isNameChar then none
  let (after, inner) := dash (trimStart inner)
  let rest ← afterPrefix? ['%', '\x7d'] inner
  pure ⟨before, after, s.length - rest.length⟩

/-- The text at `p`, as a token unless it is empty. -/
def ofText (name : String) (p : Place) (s : List Char) : List Token :=
  if s.isEmpty then [] else [{ lexeme := .text (String.ofList s), position := .of name p }]

/-- Reads the verbatim block that `m` opens at the beginning of `s`. -/
def verbatim (name : String) (p : Place) (m : Marker) (s : List Char) :
    Except Error (List Token × Nat) :=
  let inner := s.drop m.length
  let gap := if m.trimsAfter then (inner.takeWhile isBlank).length else 0
  let body := runUntil (fun t => (markerAt? endVerbatimWord t).isSome) [] (inner.drop gap)
  let rest := inner.drop (gap + body.length)
  match markerAt? endVerbatimWord rest with
  | none => refuse name p .unclosedVerbatim
  | some close =>
    let tail := rest.drop close.length
    let gap' := if close.trimsAfter then (tail.takeWhile isBlank).length else 0
    let start := p.after (s.take (m.length + gap))
    .ok (ofText name start (if close.trimsBefore then trimEnd body else body),
      m.length + gap + body.length + close.length + gap')

/-! ## Comments -/

/-- Reads the comment that starts `s`. -/
def comment (name : String) (p : Place) (s : List Char) : Except Error (List Token × Nat) :=
  let inner := s.drop 2
  let body := runUntil (fun t => t.head? == some '\n' || ['#', '\x7d'].isPrefixOf t) [] inner
  match inner.drop body.length with
  | [] => refuse name p .unclosedComment
  | '\n' :: _ => refuse name (p.after (s.take (2 + body.length))) .brokenComment
  | _ => .ok ([], body.length + 4)

/-! ## Tags -/

/-- The spellings of symbols inside a tag, longer ones before their beginnings, and whether each
carries a trim mark. -/
def spellings : List (List Char × Symbol × Bool) :=
  [(['\x7b', '\x7b', '-'], .openOutput, true), (['-', '\x7d', '\x7d'], .closeOutput, true),
   (['\x7b', '%', '-'], .openTag, true), (['-', '%', '\x7d'], .closeTag, true)] ++
  ([.equalEqual, .greaterEqual, .lessEqual, .andAnd, .orOr, .openOutput, .closeOutput, .openTag,
    .closeTag, .bangEqual, .lessGreater, .colonColon, .openParen, .closeParen, .plus, .minus,
    .star, .less, .greater, .slash, .caret, .comma, .dot, .bang, .bar, .colon, .equal, .percent,
    .openBracket, .closeBracket] : List Symbol).map fun s => (s.spelling.toList, s, false)

/-- The first spelling that `s` begins with. -/
def symbolAt? (s : List Char) : Option (List Char × Symbol × Bool) :=
  spellings.find? fun e => e.1.isPrefixOf s

/-- The character that a backslash and `c` stand for. -/
def unescape? : Char → Option Char
  | '\\' => some '\\'
  | '"' => some '"'
  | '\'' => some '\''
  | 'n' => some '\n'
  | 't' => some '\t'
  | 'r' => some '\r'
  | _ => none

/-- Reads a string up to the closing `quote`; `start` is the place of the opening one, `p` the place
of the next character, and `acc` holds the value so far, reversed.  The answer counts the characters
taken. -/
def stringRest (name : String) (start : Place) (quote : Char) :
    (p : Place) → (acc : List Char) → List Char → Except Error (List Char × Nat)
  | _, _, [] => refuse name start .unclosedString
  | p, acc, '\\' :: s =>
    match s with
    | [] => refuse name start .unclosedString
    | c :: s =>
      match unescape? c with
      | none => refuse name p (.unknownEscape c)
      | some d => do
        let (value, n) ← stringRest name start quote ((p.step '\\').step c) (d :: acc) s
        pure (value, n + 2)
  | p, acc, c :: s =>
    if c = '\n' then refuse name p .brokenString
    else if c = quote then .ok (acc.reverse, 1)
    else do
      let (value, n) ← stringRest name start quote (p.step c) (c :: acc) s
      pure (value, n + 1)

/-- The keyword or identifier that is written `s`. -/
def ofWord (s : List Char) : Lexeme :=
  match Keyword.ofSpelling? (String.ofList s) with
  | some k => .keyword k
  | none => .identifier (String.ofList s)

/-- Reads one token inside a tag, at the character `c` with `s` behind it; the number says how many
characters of `s` it takes. -/
def tokenAt (name : String) (p : Place) (c : Char) (s : List Char) : Except Error (Token × Nat) :=
  if isNameStart c then
    let tail := s.takeWhile isNameChar
    .ok ({ lexeme := ofWord (c :: tail), position := .of name p }, tail.length)
  else if isAsciiDigit c then
    let ds := s.takeWhile isAsciiDigit
    let tail := (s.drop ds.length).takeWhile isNameChar
    if tail.isEmpty then
      .ok ({ lexeme := .number (String.ofList (c :: ds)), position := .of name p }, ds.length)
    else
      .ok ({ lexeme := .identifier (String.ofList (c :: ds ++ tail)), position := .of name p },
        ds.length + tail.length)
  else if c = '"' ∨ c = '\'' then do
    let (value, n) ← stringRest name p c (p.step c) [] s
    pure ({ lexeme := .string (String.ofList value), position := .of name p }, n)
  else
    match symbolAt? (c :: s) with
    | none => refuse name p (.unknownCharacter c)
    | some (spelling, symbol, trims) =>
      if symbol.opens then refuse name p (.nestedOpening (String.ofList spelling))
      else .ok ({ lexeme := .symbol symbol, position := .of name p, trims },
        spelling.length - 1)

/-- Reads the tokens of a tag that was opened at `start`, up to the one that closes it, and counts
the characters taken. -/
def tagRest (name : String) (start p : Place) (s : List Char) :
    Except Error (List Token × Nat) :=
  let gap := s.takeWhile isBlank
  match _h : s.drop gap.length with
  | [] => refuse name start .unclosedTag
  | c :: t => do
    let q := p.after gap
    let (token, k) ← tokenAt name q c t
    let taken := gap.length + 1 + k
    if token.closes then pure ([token], taken)
    else
      let (tokens, n) ← tagRest name start (q.after (c :: t.take k)) (t.drop k)
      pure (token :: tokens, taken + n)
termination_by s.length
decreasing_by
  have := congrArg List.length _h
  simp only [List.length_drop, List.length_cons] at this
  simp only [List.length_drop]
  omega

/-- Reads the tag that starts `s` with the given opening. -/
def tag (name : String) (p : Place) (spelling : List Char) (symbol : Symbol) (trims : Bool)
    (s : List Char) : Except Error (List Token × Nat) := do
  let (tokens, n) ← tagRest name p (p.after spelling) (s.drop spelling.length)
  pure ({ lexeme := .symbol symbol, position := .of name p, trims } :: tokens, spelling.length + n)

/-! ## Pieces -/

/-- Whether a comment or a tag starts here. -/
def opensHere (s : List Char) : Bool :=
  match s with
  | '\x7b' :: '#' :: _ | '\x7b' :: '%' :: _ | '\x7b' :: '\x7b' :: _ => true
  | _ => false

/-- Reads the text that starts `s`.  A verbatim block behind it can trim it. -/
def plain (name : String) (p : Place) (s : List Char) : List Token × Nat :=
  let body := runUntil opensHere [] s
  let trimmed :=
    match markerAt? verbatimWord (s.drop body.length) with
    | some m => m.trimsBefore
    | none => false
  (ofText name p (if trimmed then trimEnd body else body), body.length)

/-- Reads the piece that starts `s`: its tokens and its length. -/
def pieceAt (name : String) (p : Place) (s : List Char) : Except Error (List Token × Nat) :=
  match markerAt? verbatimWord s with
  | some m => verbatim name p m s
  | none =>
    match s with
    | '\x7b' :: '#' :: _ => comment name p s
    | '\x7b' :: '\x7b' :: '-' :: _ => tag name p ['\x7b', '\x7b', '-'] .openOutput true s
    | '\x7b' :: '%' :: '-' :: _ => tag name p ['\x7b', '%', '-'] .openTag true s
    | '\x7b' :: '\x7b' :: _ => tag name p ['\x7b', '\x7b'] .openOutput false s
    | '\x7b' :: '%' :: _ => tag name p ['\x7b', '%'] .openTag false s
    | _ => .ok (plain name p s)

/-- The tokens of the text `s` that starts at `p`, texts still as they are written. -/
def scanFrom (name : String) (p : Place) : List Char → Except Error (List Token)
  | [] => .ok []
  | c :: s => do
    let (tokens, n) ← pieceAt name p (c :: s)
    let rest ← scanFrom name (p.after (c :: s.take (n - 1))) (s.drop (n - 1))
    pure (tokens ++ rest)
termination_by s => s.length
decreasing_by simp only [List.length_drop, List.length_cons]; omega

end Stencil.Token
