import Stencil.Markdown.Line
import Stencil.Markdown.Scan

/-!
# Beginnings of blocks

Every block other than a paragraph, indented code or a table announces itself by the characters at
the beginning of its first line.
-/

namespace Stencil.Markdown

open Stencil.Text

/-- What ends a block of markup. -/
inductive HtmlEnd where
  /-- A line that holds a text. -/
  | mark (s : List Char)
  | blankLine

/-- The mark of a list item. -/
structure ItemMark where
  /-- The bullet, or the character behind the number. -/
  sign : Char
  number : Option Nat
  /-- How far the content of the item is indented, from the mark on. -/
  width : Nat

/-- The line of marks that encloses code. -/
structure Fence where
  mark : Char
  length : Nat
  /-- How far the fence is indented. -/
  indent : Nat
  /-- What stands behind the marks. -/
  info : List Char

/-- The beginning of a block. -/
inductive Start where
  | quote (rest : Line)
  | item (m : ItemMark) (rest : Line)
  | note (name : List Char) (rest : Line)
  | rule
  | heading (level : Nat) (content : List Char)
  | fence (f : Fence)
  | html (stop : HtmlEnd)
  /-- A tag that stands alone on a line. -/
  | loneTag

namespace Start

/-! ## Lists, quotes and footnotes -/

/-- An item whose mark has `length` characters. -/
def itemFrom (l : Line) (sign : Char) (number : Option Nat) (length : Nat) : Option Start :=
  let behind := l.skip length
  if behind.isBlank then some (.item ⟨sign, number, length + 1⟩ (behind.outdent 1))
  else if behind.indent = 0 then none
  else
    let inner := behind.outdent 1
    if inner.indent < 4 then
      some (.item ⟨sign, number, length + 1 + inner.indent⟩ (inner.outdent inner.indent))
    else some (.item ⟨sign, number, length + 1⟩ inner)

/-- The list item that starts a line. -/
def item? (l : Line) : Option Start :=
  match l.rest with
  | c :: _ =>
    if c = '-' || c = '+' || c = '*' then itemFrom l c none 1
    else
      let ds := l.rest.takeWhile isAsciiDigit
      if ds.isEmpty || 9 < ds.length then none
      else
        match l.rest[ds.length]? with
        | some d =>
          if d = '.' || d = ')' then
            itemFrom l d (some (ds.foldl (fun n c => 10 * n + (c.toNat - 0x30)) 0)) (ds.length + 1)
          else none
        | none => none
  | [] => none

/-- The quote that starts a line. -/
def quote? (l : Line) : Option Start :=
  match l.rest with
  | '>' :: _ => some (.quote ((l.skip 1).outdent 1))
  | _ => none

/-- The footnote that starts a line. -/
def note? (l : Line) : Option Start := do
  let (name, behind) ← label l.rest
  let name ← noteName? name
  match behind with
  | ':' :: _ => pure (.note name (l.skip (l.rest.length - behind.length + 1)).flush)
  | _ => none

/-! ## Rules, headings and fences -/

/-- Whether a line is a rule: three or more equal marks, and blanks. -/
def isRule (s : List Char) : Bool :=
  match s with
  | c :: _ =>
    (c == '*' || c == '-' || c == '_') && s.all (fun d => d == c || d == ' ' || d == '\t') &&
      3 ≤ (s.filter (· == c)).length
  | [] => false

/-- The text of a heading without the marks at its end. -/
def dropClosing (s : List Char) : List Char :=
  let reversed := (trimEnd s).reverse
  match reversed.dropWhile (· == '#') with
  | [] => []
  | c :: rest =>
    if c = ' ' || c = '\t' then trimEnd (c :: rest).reverse else reversed.reverse

/-- The heading that starts a line. -/
def heading? (s : List Char) : Option Start :=
  let level := (s.takeWhile (· == '#')).length
  if level = 0 || 6 < level then none
  else
    match s.drop level with
    | [] => some (.heading level [])
    | c :: rest =>
      if isTrailing c then some (.heading level (dropClosing (trimStart rest))) else none

/-- The fence that starts a line, which is indented by `indent`. -/
def fence? (indent : Nat) (s : List Char) : Option Start :=
  match s with
  | c :: _ =>
    let length := (s.takeWhile (· == c)).length
    let info := s.drop length
    if (c = '\x60' || c = '~') && 3 ≤ length && !(c = '\x60' && info.contains c) then
      some (.fence ⟨c, length, indent, unescape (trim info)⟩)
    else none
  | [] => none

/-! ## Markup -/

/-- The elements whose markup ends with their own closing tag. -/
def verbatimTags : List String := ["pre", "style", "script", "textarea"]

/-- The elements whose tags start a block. -/
def blockTags : List String :=
  ["address", "article", "aside", "base", "basefont", "blockquote", "body", "caption", "center",
   "col", "colgroup", "dd", "details", "dialog", "dir", "div", "dl", "dt", "fieldset", "figcaption",
   "figure", "footer", "form", "frame", "frameset", "h1", "h2", "h3", "h4", "h5", "h6", "head",
   "header", "hr", "html", "iframe", "legend", "li", "link", "main", "menu", "menuitem", "nav",
   "noframes", "ol", "optgroup", "option", "p", "param", "search", "section", "summary", "table",
   "tbody", "td", "tfoot", "th", "thead", "title", "tr", "track", "ul"]

/-- The name of a tag that starts a text, in small letters, and what follows it. -/
def tagOf (s : List Char) : String × List Char :=
  let name := s.takeWhile isPlain
  (String.ofList (name.map Char.toLower), s.drop name.length)

/-- Whether the name of a tag can end before the given text. -/
def endsTag (s : List Char) : Bool :=
  match s with
  | [] => true
  | c :: s => c == '>' || isTrailing c || (c == '/' && s.head? == some '>')

/-- What ends the markup that starts with the text behind an angle bracket, if the text is known to
start markup that can have blank lines in it. -/
def markedEnd? (s : List Char) : Option (List Char) :=
  let (name, behind) := tagOf s
  if verbatimTags.contains name &&
    (behind.isEmpty || behind.head?.any fun c => c == '>' || isTrailing c)
  then some ("</".toList ++ name.toList ++ ['>'])
  else if ("!--".toList).isPrefixOf s then some "-->".toList
  else if s.head? == some '?' then some "?>".toList
  else if ("![CDATA[".toList).isPrefixOf s then some "]]>".toList
  else
    match s with
    | '!' :: c :: _ => if isAsciiLetter c then some ['>'] else none
    | _ => none

/-- Whether the text behind an angle bracket is the tag of an element that starts a block. -/
def isBlockTag (s : List Char) : Bool :=
  let (name, behind) := tagOf (if s.head? == some '/' then s.drop 1 else s)
  blockTags.contains name && endsTag behind

/-- The markup that starts a line. -/
def html? (s : List Char) : Option Start :=
  match s with
  | '<' :: s =>
    match markedEnd? s with
    | some mark => some (.html (.mark mark))
    | none =>
      if isBlockTag s then some (.html .blankLine)
      else
        match taken? elementTag s with
        | some (_, rest) => if rest.all isTrailing then some .loneTag else none
        | none => none
  | _ => none

/-! ## All of them -/

/-- The block that starts a line, which is indented by less than four columns. -/
def read? (l : Line) : Option Start :=
  let indent := l.indent
  let l := l.flush
  note? l <|>
    (if isRule l.rest then some .rule else none) <|>
    ((item? l).map fun
      | .item m rest => .item { m with width := indent + m.width } rest
      | s => s) <|>
    quote? l <|> html? l.rest <|> heading? l.rest <|> fence? indent l.rest

/-- Whether the block can follow a paragraph without a blank line between them.  Only lists that
surely are meant as such interrupt a paragraph at the same level (`direct`). -/
def interrupts (direct : Bool) : Start → Bool
  | .item m rest =>
    !direct || (!rest.isBlank && (m.number.isNone || m.number == some 1))
  | .loneTag => false
  | _ => true

end Start

end Stencil.Markdown
