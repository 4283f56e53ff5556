/-!
# Blocks

A document is a list of blocks.  Quotes, lists and footnotes hold blocks themselves; the content of
the others is of a type `α`: source text at first, inline markup in the end.
-/

namespace Stencil.Markdown

/-- How the cells of a column are aligned. -/
inductive Alignment where
  | none
  | left
  | center
  | right
deriving DecidableEq

/-- A block of a document. -/
inductive Block (α : Type) where
  /-- A paragraph; `task` is the state of the check box in front of it, if there is one. -/
  | paragraph (task : Option Bool) (content : α)
  | heading (level : Nat) (content : α)
  | rule
  /-- Code, in a language if `language` is not empty. -/
  | code (language text : List Char)
  /-- Markup that is passed on as it is. -/
  | html (text : List Char)
  | quote (body : List (Block α))
  /-- A list, numbered from `start` if there is a number.  The paragraphs of a tight list are no
  paragraphs of their own. -/
  | list (start : Option Nat) (tight : Bool) (items : List (List (Block α)))
  | table (columns : List Alignment) (head : List α) (rows : List (List α))
  /-- The content of a footnote. -/
  | note (name : List Char) (body : List (Block α))

namespace Block

mutual

/-- The block with `f` applied to its contents. -/
def map {α β : Type} (f : α → β) : Block α → Block β
  | .paragraph task content => .paragraph task (f content)
  | .heading level content => .heading level (f content)
  | .rule => .rule
  | .code language text => .code language text
  | .html text => .html text
  | .quote body => .quote (mapAll f body)
  | .list start tight items => .list start tight (mapItems f items)
  | .table columns head rows => .table columns (head.map f) (rows.map fun row => row.map f)
  | .note name body => .note name (mapAll f body)

/-- The blocks with `f` applied to their contents. -/
def mapAll {α β : Type} (f : α → β) : List (Block α) → List (Block β)
  | [] => []
  | b :: bs => b.map f :: mapAll f bs

/-- The items of a list with `f` applied to their contents. -/
def mapItems {α β : Type} (f : α → β) : List (List (Block α)) → List (List (Block β))
  | [] => []
  | item :: items => mapAll f item :: mapItems f items

end

end Block

end Stencil.Markdown
