/-!
# Inline markup

The content of a paragraph: text with emphasis, code, links and the like.
-/

namespace Stencil.Markdown

/-- A piece of the content of a paragraph. -/
inductive Inline where
  | text (s : List Char)
  | code (s : List Char)
  /-- A tag that is passed on as it is. -/
  | html (s : List Char)
  /-- An end of a line that means no more than a space. -/
  | softBreak
  | hardBreak
  | emphasis (body : List Inline)
  | strong (body : List Inline)
  | struck (body : List Inline)
  | link (target title : List Char) (body : List Inline)
  | image (target title : List Char) (body : List Inline)
  /-- A reference to a footnote. -/
  | note (name : List Char)
deriving Inhabited

/-- Where a link leads to, and the title that it has. -/
structure Destination where
  target : List Char
  title : List Char

/-- What the paragraphs of a document can refer to. -/
structure References where
  /-- Destinations by label, each in its normal form. -/
  links : List (List Char × Destination)
  /-- The names of footnotes, each in its normal form. -/
  notes : List (List Char)

end Stencil.Markdown
