import Stencil.Token.Scan

/-!
# From source to tokens

After scanning, the texts beside tags lose the whitespace that trim marks and the options for block
tags take from them, and texts that end up empty are dropped.
-/

namespace Stencil

/-- How whitespace around block tags is treated. -/
structure Trimming where
  /-- Whether the first line break behind a block tag is dropped. -/
  trimBlocks : Bool := false
  /-- Whether spaces and tabs between the start of a line and a block tag are dropped. -/
  lstripBlocks : Bool := false
deriving DecidableEq, Inhabited

namespace Trimming

open Stencil.Text

/-- The text without a line break at its start. -/
def dropLineBreak : List Char → List Char
  | '\r' :: '\n' :: s => s
  | '\n' :: s => s
  | s => s

/-- What the closing token in front of a text leaves of it. -/
def afterClose (o : Trimming) (before : Option Token) (s : List Char) : List Char :=
  match before with
  | none => s
  | some t =>
    let s := if t.trims && t.closes then trimStart s else s
    if o.trimBlocks && t.isSymbol .closeTag then dropLineBreak s else s

/-- The text without the spaces and tabs that form the beginning of its last line.  `fresh` says
whether the text starts a line. -/
def dropIndent (fresh : Bool) (s : List Char) : List Char :=
  let last := (s.reverse.takeWhile (· != '\n')).reverse
  let blank := last.all fun c => c == ' ' || c == '\t'
  if blank && (fresh || s.contains '\n') then s.take (s.length - last.length) else s

/-- What the opening token behind a text leaves of it; `column` is where the text starts. -/
def beforeOpen (o : Trimming) (column : Nat) (behind : Option Token) (s : List Char) : List Char :=
  match behind with
  | none => s
  | some t =>
    let opens := t.isSymbol .openOutput || t.isSymbol .openTag
    let s := if t.trims && opens then trimEnd s else s
    if o.lstripBlocks && t.isSymbol .openTag then dropIndent (column == 1) s else s

/-- The token between two others, a text trimmed on both sides. -/
def settleOne (o : Trimming) (before : Option Token) (t : Token) (behind : Option Token) :
    List Token :=
  match t.lexeme with
  | .text s =>
    let kept := o.beforeOpen t.position.column behind (o.afterClose before s.toList)
    if kept.isEmpty then [] else [{ t with lexeme := .text (String.ofList kept) }]
  | _ => [t]

/-- The tokens with their texts trimmed; `before` is the token in front of them. -/
def settle (o : Trimming) (before : Option Token) : List Token → List Token
  | [] => []
  | t :: ts => o.settleOne before t ts.head? ++ o.settle (some t) ts

end Trimming

namespace Token

/-- The tokens of the template `name` with the given source. -/
def tokenize (o : Trimming) (name source : String) : Except Error (List Token) := do
  let tokens ← scanFrom name {} source.toList
  pure (o.settle none tokens)

end Token

end Stencil
