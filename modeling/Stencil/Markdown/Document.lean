import Stencil.Markdown.Block
import Stencil.Markdown.Definition
import Stencil.Markdown.Start
import Stencil.Markdown.Table

/-!
# Documents

A document is read line by line.  Between two lines there are open containers (quotes, lists with
their items, footnotes) and perhaps an open block at the end that further lines can belong to.
Each line first passes the containers that it continues; what is left of it continues the open
block or starts new ones.
-/

namespace Stencil.Markdown

open Stencil.Text

/-- A block whose content is source text. -/
abbrev SourceBlock := Block (List Char)

/-- An open container with its closed blocks, last first. -/
inductive Container where
  | quote (blocks : List SourceBlock)
  /-- An item whose content is indented by `width`; `bare` tells whether nothing has started in
  it. -/
  | item (width : Nat) (bare : Bool) (blocks : List SourceBlock)
  /-- A list with its closed items, last first. -/
  | list (mark : ItemMark) (tight : Bool) (items : List (List SourceBlock))
  | note (name : List Char) (blocks : List SourceBlock)

/-- An open block that is no container, with its lines, last first. -/
inductive Leaf where
  | paragraph (task : Option Bool) (lines : List (List Char))
  | fenced (f : Fence) (lines : List (List Char))
  /-- Indented code; `blanks` are the blank lines after the last line that is not blank. -/
  | indented (lines blanks : List (List Char))
  | html (stop : HtmlEnd) (lines : List (List Char))
  | table (columns : List Alignment) (head : List (List Char)) (rows : List (List (List Char)))

namespace Container

/-- What is left of a line after the container, if the line continues it. -/
def pass? (c : Container) (l : Line) : Option Line :=
  match c with
  | quote _ =>
    if l.indent < 4 && l.flush.rest.head? == some '>' then some ((l.flush.skip 1).outdent 1)
    else none
  | item width _ _ =>
    if width ≤ l.indent then some (l.outdent width) else if l.isBlank then some l else none
  | list .. => some l
  | note .. => if 4 ≤ l.indent then some (l.outdent 4) else if l.isBlank then some l else none

end Container

/-- What was read of a document. -/
structure Draft where
  /-- The closed blocks outside of containers, last first. -/
  blocks : List SourceBlock := []
  /-- The open containers, the innermost first. -/
  containers : List Container := []
  leaf : Option Leaf := none
  /-- Whether the last line was blank and nothing has started since. -/
  afterBlank : Bool := false
  /-- The definitions so far, last first. -/
  definitions : List Definition := []
  /-- The names of the footnotes. -/
  notes : List (List Char) := []

namespace Draft

/-! ## Closing -/

/-- Adds a block to the innermost container. -/
def put (d : Draft) (b : SourceBlock) : Draft :=
  match d.containers with
  | [] => { d with blocks := b :: d.blocks }
  | .quote bs :: cs => { d with containers := .quote (b :: bs) :: cs }
  | .item width bare bs :: cs => { d with containers := .item width bare (b :: bs) :: cs }
  | .note name bs :: cs => { d with containers := .note name (b :: bs) :: cs }
  | .list mark tight items :: cs => { d with containers := .list mark tight ([b] :: items) :: cs }

/-- The lines of a paragraph as its content. -/
def contentOf (lines : List (List Char)) : List Char := join ['\n'] lines.reverse

/-- Whether a paragraph holds more than definitions. -/
def holdsText (lines : List (List Char)) : Bool :=
  !(trim (Definition.leading (contentOf lines)).2).isEmpty

/-- Adds a paragraph without the definitions at its beginning; `make` makes a block of what is
left, if anything is. -/
def putContent (d : Draft) (lines : List (List Char)) (make : List Char → SourceBlock) : Draft :=
  let (ds, rest) := Definition.leading (contentOf lines)
  let d := { d with definitions := ds.reverse ++ d.definitions }
  if (trim rest).isEmpty then d else d.put (make rest)

/-- Closes the open block that is no container. -/
def closeLeaf (d : Draft) : Draft :=
  let e := { d with leaf := none }
  match d.leaf with
  | none => d
  | some (.paragraph none lines) => e.putContent lines (.paragraph none)
  | some (.paragraph task lines) => e.put (.paragraph task (contentOf lines))
  | some (.fenced f lines) =>
    e.put (.code (f.info.takeWhile (· != ' ')) lines.reverse.flatten)
  | some (.indented lines _) => e.put (.code [] lines.reverse.flatten)
  | some (.html _ lines) => e.put (.html lines.reverse.flatten)
  | some (.table columns head rows) => e.put (.table columns head rows.reverse)

/-- Closes the innermost container. -/
def closeContainer (d : Draft) : Draft :=
  match d.containers with
  | [] => d
  | c :: cs =>
    let e := { d with containers := cs }
    match c with
    | .quote bs => e.put (.quote bs.reverse)
    | .note name bs => e.put (.note name bs.reverse)
    | .list mark tight items => e.put (.list mark.number tight items.reverse)
    | .item _ _ bs =>
      match cs with
      | .list mark tight items :: cs =>
        { e with containers := .list mark tight (bs.reverse :: items) :: cs }
      | _ => e

/-- Closes the given number of containers, the innermost first. -/
def closeMany (d : Draft) : Nat → Draft
  | 0 => d
  | n + 1 => d.closeContainer.closeMany n

/-- Closes everything except the `n` outermost containers. -/
def closeTo (d : Draft) (n : Nat) : Draft :=
  let d := d.closeLeaf
  d.closeMany (d.containers.length - n)

/-! ## Starting -/

/-- Notes that something starts in the innermost container. -/
def touch (d : Draft) : Draft :=
  match d.containers with
  | .item width _ bs :: cs => { d with containers := .item width false bs :: cs }
  | _ => d

/-- Makes the list of the innermost item loose if a blank line comes before what starts now. -/
def loosen (d : Draft) : Draft :=
  match d.afterBlank, d.containers with
  | true, item :: .list mark _ items :: cs =>
    { d with afterBlank := false, containers := item :: .list mark false items :: cs }
  | _, _ => { d with afterBlank := false }

/-- Prepares for something other than a further item: a list without an open item is complete. -/
def endList (d : Draft) : Draft :=
  match d.containers with
  | .list .. :: _ => d.closeContainer.loosen.touch
  | _ => d.loosen.touch

/-- Opens a container. -/
def push (d : Draft) (c : Container) : Draft :=
  let d := d.endList
  { d with containers := c :: d.containers }

/-- Opens a block that is no container. -/
def start (d : Draft) (leaf : Leaf) : Draft := { d.endList with leaf := some leaf }

/-- Opens an item, in the list that waits for one or in a new one. -/
def pushItem (d : Draft) (m : ItemMark) (bare : Bool) : Draft :=
  match d.containers with
  | .list mark tight items :: cs =>
    if mark.sign = m.sign then
      { d with
        containers := .item m.width bare [] :: .list mark (tight && !d.afterBlank) items :: cs }
    else
      let d := d.push (.list m true [])
      { d with containers := .item m.width bare [] :: d.containers }
  | _ =>
    let d := d.push (.list m true [])
    { d with containers := .item m.width bare [] :: d.containers }

/-- Opens a footnote, which ends a footnote that is open. -/
def pushNote (d : Draft) (name : List Char) : Draft :=
  let d := d.endList
  let d := match d.containers with
    | .note .. :: _ => d.closeContainer
    | _ => d
  { d with containers := .note name [] :: d.containers, notes := normalLabel name :: d.notes }

/-- Passes a blank line.  An item that begins with a blank line has nothing behind a second one. -/
def blank (d : Draft) : Draft :=
  match d.containers with
  | .quote _ :: _ => d
  | .item _ true _ :: _ => { d.closeContainer with afterBlank := true }
  | _ => { d with afterBlank := true }

/-- The check box that starts the content of an item, and what follows it. -/
def task? (l : Line) : Option (Bool × Line) :=
  let l := l.flush
  match l.rest with
  | '[' :: c :: ']' :: d :: _ =>
    if !isTrailing d then none
    else if c = 'x' || c = 'X' then some (true, l.skip 3)
    else if isTrailing c then some (false, l.skip 3)
    else none
  | _ => none

/-- Whether a line holds the whole of the markup that it starts. -/
def endsHtml (stop : HtmlEnd) (line : List Char) : Bool :=
  match stop with
  | .mark s => occursIn s line
  | .blankLine => false

/-- Adds a line to markup, which ends if the line says so. -/
def addHtml (d : Draft) (stop : HtmlEnd) (lines : List (List Char)) (l : Line) : Draft :=
  let d := { d with leaf := some (.html stop (l.whole :: lines)) }
  if endsHtml stop l.rest then d.closeLeaf else d

/-- Starts the block that is no container. -/
def startBlock (d : Draft) (s : Start) (l : Line) : Draft :=
  match s with
  | .rule => d.endList.put .rule
  | .heading level content => d.endList.put (.heading level content)
  | .fence f => d.start (.fenced f [])
  | .html stop => d.endList.addHtml stop [] l
  | .loneTag => d.endList.addHtml .blankLine [] l
  | _ => d

/-- Starts whatever a line starts; nothing is open that the line belongs to.  Each container takes
at least one character, so `fuel` is more than the length of the line. -/
def openLine : (fuel : Nat) → Draft → (task : Option Bool) → Line → Draft
  | 0, d, _, _ => d
  | fuel + 1, d, task, l =>
    if l.isBlank then d.blank
    else if 4 ≤ l.indent then d.start (.indented [(l.outdent 4).whole] [])
    else
      match (if task.isSome then none else Start.read? l) with
      | some (.quote rest) => openLine fuel (d.push (.quote [])) none rest
      | some (.note name rest) => openLine fuel (d.pushNote name) none rest
      | some (.item m rest) =>
        if rest.isBlank then d.pushItem m true
        else
          let d := d.pushItem m false
          match task? rest with
          | some (done, behind) =>
            if behind.isBlank then d.put (.paragraph (some done) [])
            else openLine fuel d (some done) behind
          | none => openLine fuel d none rest
      | some s => d.startBlock s l
      | none => d.start (.paragraph task [l.flush.rest])

/-- Starts whatever a line starts. -/
def openAt (d : Draft) (l : Line) : Draft := openLine (l.rest.length + 1) d none l

/-! ## Continuing -/

/-- How many of the containers, the outermost first, a line continues, and what is left of it. -/
def pass : List Container → Line → Nat × Line
  | [], l => (0, l)
  | c :: cs, l =>
    match c.pass? l with
    | some l =>
      let (n, l) := pass cs l
      (n + 1, l)
    | none => (0, l)

/-- The level of the heading that a line makes of the paragraph above it. -/
def underline? (l : Line) : Option Nat :=
  let s := trimEnd l.flush.rest
  if s.isEmpty then none
  else if s.all (· == '=') then some 1
  else if s.all (· == '-') then some 2
  else none

/-- Whether a line ends a paragraph by what it starts. -/
def isInterrupted (direct : Bool) (l : Line) : Bool :=
  match Start.read? l with
  | some s => s.interrupts direct
  | none => false

/-- The alignments of the table that starts with the last line of a paragraph, if the next line
makes it one.  A row in the middle of a paragraph has to start with a pipe. -/
def tableHeading? (lines : List (List Char)) (l : Line) : Option (List Alignment) :=
  match lines with
  | [] => none
  | head :: earlier =>
    if earlier.isEmpty || head.head? == some '|' then Table.heading? head l.flush.rest else none

/-- A line after a paragraph.  It continues the `n` outermost containers, which are all of them if
`direct`. -/
def afterParagraph (d : Draft) (n : Nat) (direct : Bool) (task : Option Bool)
    (lines : List (List Char)) (l : Line) : Draft :=
  let continued := { d with leaf := some (.paragraph task (l.flush.rest :: lines)) }
  if l.isBlank then (d.closeTo n).blank
  else if 4 ≤ l.indent then continued
  else
    match (if direct then tableHeading? lines l else none), lines with
    | some columns, head :: earlier =>
      let d := { d with leaf := none }
      let d := if earlier.isEmpty then d else d.putContent earlier (.paragraph task)
      { d with leaf := some (.table columns (Table.fitted columns.length head) []) }
    | _, _ =>
      match (if direct then underline? l else none) with
      | some level =>
        let closed := { d with leaf := none }.putContent lines (.heading level)
        if holdsText lines then closed else closed.openAt l
      | none =>
        if isInterrupted direct l then (d.closeTo n).openAt l else continued

/-- A line after the given open block that is no paragraph, all containers continuing. -/
def afterLeaf (d : Draft) (leaf : Leaf) (l : Line) : Draft :=
  let next := if l.isBlank then d.closeLeaf.blank else d.closeLeaf.openAt l
  match leaf with
  | .paragraph task lines => d.afterParagraph d.containers.length true task lines l
  | .fenced f lines =>
    let inner := l.outdent f.indent
    let marks := (inner.flush.rest.takeWhile (· == f.mark)).length
    if inner.indent + f.indent < 4 && f.length ≤ marks &&
        (inner.flush.rest.drop marks).all isTrailing
    then d.closeLeaf
    else { d with leaf := some (.fenced f (inner.whole :: lines)) }
  | .indented lines blanks =>
    if l.isBlank then
      { d with leaf := some (.indented lines ((l.outdent 4).whole :: blanks)), afterBlank := true }
    else if 4 ≤ l.indent then
      { d with
        leaf := some (.indented ((l.outdent 4).whole :: (blanks ++ lines)) [])
        afterBlank := false }
    else next
  | .html stop lines =>
    match stop with
    | .mark _ => d.addHtml stop lines l
    | .blankLine => if l.isBlank then next else d.addHtml stop lines l
  | .table columns head rows =>
    let row := Table.fitted columns.length l.flush.rest
    if l.isBlank || isInterrupted false l.flush || (Table.cells l.flush.rest).isEmpty then next
    else { d with leaf := some (.table columns head (row :: rows)) }

/-- Reads a line. -/
def addLine (d : Draft) (line : Line) : Draft :=
  let (n, l) := pass d.containers.reverse line
  let direct := n == d.containers.length
  match d.leaf with
  | none => if l.isBlank then (d.closeTo n).blank else (d.closeTo n).openAt l
  | some (.paragraph task lines) => d.afterParagraph n direct task lines l
  | some leaf =>
    if direct then d.afterLeaf leaf l
    else if l.isBlank then (d.closeTo n).blank
    else (d.closeTo n).openAt l

/-- The draft of a whole text. -/
def read (s : List Char) : Draft := ((Line.all s).foldl addLine {}).closeTo 0

/-- What the paragraphs of the document can refer to.  Of two definitions of a label the first one
counts. -/
def references (d : Draft) : References := ⟨d.definitions.reverse, d.notes⟩

end Draft

end Stencil.Markdown
