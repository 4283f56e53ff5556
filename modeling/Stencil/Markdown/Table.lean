import Stencil.Markdown.Block
import Stencil.Text.Basic

/-!
# Tables

The rows of a table are lines with cells between pipes.  The line under the first row gives the
alignments.
-/

namespace Stencil.Markdown.Table

open Stencil.Text

/-- The texts between pipes.  A pipe after a backslash does not count; it loses the backslash. -/
def splitCells : List Char → List (List Char)
  | [] => [[]]
  | '\\' :: '|' :: s =>
    match splitCells s with
    | [] => [['|']]
    | w :: ws => ('|' :: w) :: ws
  | c :: s =>
    if c = '|' then [] :: splitCells s
    else
      match splitCells s with
      | [] => [[c]]
      | w :: ws => (c :: w) :: ws

/-- The cells of a row.  Pipes at its ends are no more than decoration. -/
def cells (row : List Char) : List (List Char) :=
  let parts :=
    match trimStart row with
    | '|' :: s => splitCells s
    | s => splitCells s
  match parts.getLast? with
  | some last => if (trim last).isEmpty then parts.dropLast.map trim else parts.map trim
  | none => []

/-- Whether a line has a pipe that counts. -/
def hasPipe : List Char → Bool
  | [] => false
  | '\\' :: _ :: s => hasPipe s
  | c :: s => c == '|' || hasPipe s

/-- The cells of a row, cut or filled up to the number of columns. -/
def fitted (columns : Nat) (row : List Char) : List (List Char) :=
  let cs := (cells row).take columns
  cs ++ List.replicate (columns - cs.length) []

/-- The alignment of a column so far, after a colon; `fresh` tells whether the colon is first. -/
def withColon (fresh : Bool) (a : Alignment) : Alignment :=
  match fresh, a with
  | true, .none => .left
  | false, .left => .center
  | false, .none => .right
  | _, a => a

/-- The alignments that the rest of a line gives.  `a` is the one of the column so far, `fresh`
tells whether nothing was said about it yet, and `hyphen` whether it has a hyphen. -/
def columnsFrom (a : Alignment) (fresh hyphen : Bool) : List Char → Option (List Alignment)
  | [] => some (if fresh then [] else [a])
  | ' ' :: s => columnsFrom a fresh hyphen s
  | ':' :: s => columnsFrom (withColon fresh a) false hyphen s
  | '-' :: s => columnsFrom a false true s
  | '|' :: s => if hyphen then (columnsFrom .none true false s).map (a :: ·) else none
  | _ => none

/-- The alignments that a line gives, if it is the line under the first row of a table. -/
def columns? (line : List Char) : Option (List Alignment) :=
  if !line.contains '|' || !line.contains '-' then none
  else
    match line with
    | '|' :: s => columnsFrom .none true false s
    | s => columnsFrom .none true false s

/-- The alignments of a table that starts with the row `head` and the line `under`. -/
def heading? (head under : List Char) : Option (List Alignment) :=
  if hasPipe head then (columns? under).filter fun cs => cs.length == (cells head).length
  else none

end Stencil.Markdown.Table
