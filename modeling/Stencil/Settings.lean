import Stencil.Data.Datum
import Stencil.Template
import Stencil.Token.Tokenize

/-!
# Settings

The settings of a set of templates, each with the value it has when nothing is said.
-/

namespace Stencil

/-- The settings of a set. -/
structure Settings where
  autoescape : Bool := true
  trimBlocks : Bool := false
  lstripBlocks : Bool := false
  /-- Whether templates are compiled anew on every load. -/
  debug : Bool := false
  maxRecursionDepth : Nat := 100
  maxExpressionDepth : Nat := 150
  /-- How deep tags with a body may nest. -/
  maxNestingDepth : Nat := 64
  templateDirs : List String := []
  bannedFilters : List String := []
  bannedTags : List String := []
  /-- Values that every template of the set sees. -/
  globals : Table Datum := []
deriving Inhabited

namespace Settings

/-- How whitespace around block tags is treated. -/
def trimming (s : Settings) : Trimming := ⟨s.trimBlocks, s.lstripBlocks⟩

/-- What templates keep of the settings. -/
def renderOptions (s : Settings) : RenderOptions := ⟨s.autoescape, s.maxRecursionDepth⟩

end Settings

end Stencil
