import Stencil.Markdown.Document
import Stencil.Markdown.Inline.Read
import Stencil.Markdown.Page

/-!
# Markdown

A text in Markdown becomes a document, and the document becomes a page.
-/

namespace Stencil.Markdown

/-- The document that a text in Markdown stands for. -/
def document (s : List Char) : List (Block (List Inline)) :=
  let d := Draft.read s
  Block.mapAll (Inline.read d.references) d.blocks.reverse

/-- The HTML of a text in Markdown. -/
def toHtml (s : List Char) : List Char :=
  (Page.blocks false {} (document s)).reversed.reverse

end Stencil.Markdown
