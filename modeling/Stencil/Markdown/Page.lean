import Stencil.Markdown.Block
import Stencil.Markdown.Inline
import Stencil.Text.Escape

/-!
# Pages

A document written as HTML.  Every block begins on a new line, and footnotes are numbered in the
order in which their names first come.
-/

namespace Stencil.Markdown

open Stencil.Text

/-- A page that is being written. -/
structure Page where
  /-- What was written, last first. -/
  reversed : List Char := []
  /-- Whether a new line has begun. -/
  fresh : Bool := true
  /-- The footnotes by number, last first. -/
  notes : List (List Char) := []

namespace Page

/-! ## Writing text -/

/-- The page with more text. -/
def write (p : Page) (s : List Char) : Page :=
  match s.getLast? with
  | none => p
  | some last => { p with reversed := s.reverse ++ p.reversed, fresh := last == '\n' }

/-- The page with more text. -/
def tag (p : Page) (s : String) : Page := p.write s.toList

/-- The page on a new line. -/
def line (p : Page) : Page := if p.fresh then p else p.write ['\n']

/-- A character of the body of a page. -/
def bodyChar (c : Char) : List Char :=
  if c = '&' then "&amp;".toList
  else if c = '<' then "&lt;".toList
  else if c = '>' then "&gt;".toList
  else [c]

/-- The page with text in its body. -/
def body (p : Page) (s : List Char) : Page := p.write (s.flatMap bodyChar)

/-- The page with text in an attribute. -/
def value (p : Page) (s : List Char) : Page := p.write (s.flatMap escapeHtmlChar)

/-- Whether a character stands for itself in the address of a link. -/
def isTargetChar (c : Char) : Bool :=
  isAsciiLetter c || isAsciiDigit c || "!#$%()*+,-./:;=?@_~".toList.contains c

/-- A character of the address of a link. -/
def targetChar (c : Char) : List Char :=
  if isTargetChar c then [c]
  else if c = '&' then "&amp;".toList
  else if c = '\'' then "&#x27;".toList
  else
    c.toString.toUTF8.toList.flatMap fun b =>
      ['%', upperHexDigit (b.toNat / 16), upperHexDigit (b.toNat % 16)]

/-- The page with the address of a link. -/
def target (p : Page) (s : List Char) : Page := p.write (s.flatMap targetChar)

/-- The number of a footnote, and the page that knows it. -/
def number (p : Page) (name : List Char) : Nat × Page :=
  match p.notes.reverse.idxOf? name with
  | some i => (i + 1, p)
  | none => (p.notes.length + 1, { p with notes := name :: p.notes })

/-- The page with the number of a footnote. -/
def numbered (p : Page) (name : List Char) : Page :=
  let (n, p) := p.number name
  p.tag (toString n)

/-- The page with the title of a link. -/
def titled (p : Page) (title : List Char) : Page :=
  if title.isEmpty then p else (p.tag "\" title=\"").value title

/-! ## Inline markup -/

mutual

/-- Writes inline markup as the text of an attribute. -/
def plain (p : Page) : Inline → Page
  | .text s | .code s | .html s => p.value s
  | .softBreak | .hardBreak => p.tag " "
  | .emphasis body | .strong body | .struck body => p.plainAll body
  | .link _ _ body | .image _ _ body => p.plainAll body
  | .note name => ((p.tag "[").numbered name).tag "]"

/-- Writes inline markup as the text of an attribute. -/
def plainAll (p : Page) : List Inline → Page
  | [] => p
  | i :: is => (p.plain i).plainAll is

end

mutual

/-- Writes inline markup. -/
def inline (p : Page) : Inline → Page
  | .text s => p.body s
  | .code s => ((p.tag "<code>").body s).tag "</code>"
  | .html s => p.write s
  | .softBreak => p.tag "\n"
  | .hardBreak => p.tag "<br />\n"
  | .emphasis body => ((p.tag "<em>").inlines body).tag "</em>"
  | .strong body => ((p.tag "<strong>").inlines body).tag "</strong>"
  | .struck body => ((p.tag "<del>").inlines body).tag "</del>"
  | .link address title body =>
    (((((p.tag "<a href=\"").target address).titled title).tag "\">").inlines body).tag "</a>"
  | .image address title body =>
    let p := (((p.tag "<img src=\"").target address).tag "\" alt=\"").plainAll body
    (p.titled title).tag "\" />"
  | .note name =>
    let p := ((p.tag "<sup class=\"footnote-reference\"><a href=\"#").value name).tag "\">"
    (p.numbered name).tag "</a></sup>"

/-- Writes inline markup. -/
def inlines (p : Page) : List Inline → Page
  | [] => p
  | i :: is => (p.inline i).inlines is

end

/-! ## Blocks -/

/-- The attribute of a cell in a column. -/
def cellStyle (a : Alignment) : String :=
  match a with
  | .none => ">"
  | .left => " style=\"text-align: left\">"
  | .center => " style=\"text-align: center\">"
  | .right => " style=\"text-align: right\">"

/-- Writes the cells of a row between tags of the given name. -/
def cells (name : String) (p : Page) (columns : List Alignment) (row : List (List Inline)) : Page :=
  (columns.zip row).foldl
    (fun p (a, cell) =>
      ((p.tag ("<" ++ name ++ cellStyle a)).inlines cell).tag ("</" ++ name ++ ">"))
    p

/-- Writes a check box. -/
def checkBox (p : Page) (task : Option Bool) : Page :=
  match task with
  | none => p
  | some false => p.tag "<input disabled=\"\" type=\"checkbox\"/>\n"
  | some true => p.tag "<input disabled=\"\" type=\"checkbox\" checked=\"\"/>\n"

/-- Writes the tag that opens a list. -/
def openList (p : Page) (start : Option Nat) : Page :=
  match start with
  | none => p.line.tag "<ul>\n"
  | some 1 => p.line.tag "<ol>\n"
  | some n => p.line.tag ("<ol start=\"" ++ toString n ++ "\">\n")

mutual

/-- Writes a block; `tight` tells whether it stands in a tight list. -/
def block (tight : Bool) (p : Page) : Block (List Inline) → Page
  | .paragraph task content =>
    if tight then (p.checkBox task).inlines content
    else (((p.line.tag "<p>").checkBox task).inlines content).tag "</p>\n"
  | .heading level content =>
    let name := "h" ++ toString level ++ ">"
    ((p.line.tag ("<" ++ name)).inlines content).tag ("</" ++ name ++ "\n")
  | .rule => p.line.tag "<hr />\n"
  | .code language text =>
    let p := p.line.tag "<pre><code"
    let p := if language.isEmpty then p else ((p.tag " class=\"language-").value language).tag "\""
    ((p.tag ">").body text).tag "</code></pre>\n"
  | .html text => p.write text
  | .quote body => (blocks false (p.line.tag "<blockquote>\n") body).tag "</blockquote>\n"
  | .list start tight items =>
    (listItems tight (p.openList start) items).tag (if start.isSome then "</ol>\n" else "</ul>\n")
  | .table columns head rows =>
    let p := (cells "th" (p.tag "<table><thead><tr>") columns head).tag "</tr></thead><tbody>\n"
    let p := rows.foldl (fun p row => (cells "td" (p.tag "<tr>") columns row).tag "</tr>\n") p
    p.tag "</tbody></table>\n"
  | .note name body =>
    let p := (p.line.tag "<div class=\"footnote-definition\" id=\"").value name
    let p := (p.tag "\"><sup class=\"footnote-definition-label\">").numbered name
    (blocks false (p.tag "</sup>") body).tag "</div>\n"

/-- Writes blocks. -/
def blocks (tight : Bool) (p : Page) : List (Block (List Inline)) → Page
  | [] => p
  | b :: bs => blocks tight (block tight p b) bs

/-- Writes the items of a list. -/
def listItems (tight : Bool) (p : Page) : List (List (Block (List Inline))) → Page
  | [] => p
  | item :: items =>
    listItems tight ((blocks tight (p.line.tag "<li>") item).tag "</li>\n") items

end

end Page

end Stencil.Markdown
