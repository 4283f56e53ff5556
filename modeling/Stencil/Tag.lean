import Stencil.Registry
import Stencil.Template

/-!
# Tags

The tags of the language, and what a host can say about tags of its own.  Such a tag states how its
arguments are read and which tags end its sections; from what was read it builds the steps that are
taken when the tag is rendered.
-/

namespace Stencil

/-- The built-in tags. -/
inductive Tag where
  | branch | compareEqual | compareUnequal | loop | cycle | firstOf
  | block | extending | including | importing
  | bind | assign | define | autoescape | filtering
  | spaceless | comment | now | templatetag | widthratio
deriving DecidableEq, Inhabited

namespace Tag

/-- All built-in tags. -/
def all : List Tag :=
  [branch, compareEqual, compareUnequal, loop, cycle, firstOf,
   block, extending, including, importing,
   bind, assign, define, autoescape, filtering,
   spaceless, comment, now, templatetag, widthratio]

/-- The name under which templates use a tag. -/
def name : Tag → String
  | branch => "if"
  | compareEqual => "ifequal"
  | compareUnequal => "ifnotequal"
  | loop => "for"
  | cycle => "cycle"
  | firstOf => "firstof"
  | block => "block"
  | extending => "extends"
  | including => "include"
  | importing => "import"
  | bind => "with"
  | assign => "set"
  | define => "macro"
  | autoescape => "autoescape"
  | filtering => "filter"
  | spaceless => "spaceless"
  | comment => "comment"
  | now => "now"
  | templatetag => "templatetag"
  | widthratio => "widthratio"

end Tag

/-- How a tag of the host reads its arguments. -/
inductive ArgumentForm where
  /-- It leaves them alone. -/
  | none
  /-- It reads one expression. -/
  | expression
  /-- It takes all tokens. -/
  | tokens
  /-- It refuses whatever is there, in the given words. -/
  | refusal (text : String)

/-- What was read for a tag of the host. -/
structure TagParts where
  /-- The name of the template. -/
  template : String
  /-- The token that names the tag. -/
  name : Token
  value : Option Expr
  tokens : List Token
  /-- The sections and the tokens that name the tags that end them. -/
  sections : List (Body × Token)

/-- A tag of the host. -/
structure CustomTag where
  arguments : ArgumentForm := .none
  /-- The names of the tags that end a section, the last of which ends the whole; there is no body
  if there are none. -/
  ends : List String := []
  build : TagParts → List Step

/-- A tag as a registry holds it. -/
inductive TagRef where
  | builtin (t : Tag)
  | custom (t : CustomTag)

/-- The filters and tags of a set. -/
structure Catalog where
  filters : Registry FilterRef
  tags : Registry TagRef

namespace Catalog

/-- The built-in filters and tags. -/
def builtin : Catalog where
  filters := { entries := Filter.all.map fun f => (f.name, .builtin f) }
  tags := { entries := Tag.all.map fun t => (t.name, .builtin t) }

end Catalog

end Stencil
