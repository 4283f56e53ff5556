import Stencil.Command.Files
import Stencil.Library.Compile
import Stencil.Render.Exec

/-!
# The command that renders

Renders a template from the template directories on the data of a context file.
-/

namespace Stencil.Command

/-- What to render and how. -/
structure RenderRequest where
  template : String
  /-- The file with the data. -/
  context : Option String := none
  /-- More template directories. -/
  dirs : List String := []
  /-- The file with the settings. -/
  config : Option String := none
  banFilters : List String := []
  banTags : List String := []
  noAutoescape : Bool := false
  /-- The file that takes the output. -/
  output : Option String := none

namespace RenderRequest

/-- The settings of the render. -/
def settings (r : RenderRequest) (disk : Disk) : Except CommandFault Settings := do
  let s ← settingsWith disk r.config r.dirs
  pure
    { s with
      bannedFilters := s.bannedFilters ++ r.banFilters
      bannedTags := s.bannedTags ++ r.banTags
      autoescape := s.autoescape && !r.noAutoescape }

/-- The rendered text. -/
def text (r : RenderRequest) (host : Host) (disk : Disk) : Except CommandFault String := do
  let settings ← r.settings disk
  let library ← (Library.ofSettings disk "cli" settings).mapError .engine
  let context ←
    match r.context with
    | some path => readContext disk path
    | none => pure []
  match (Library.fromFile r.template).run library with
  | (.error h, library) => throw (.ofHalt library h)
  | (.ok t, library) =>
    match t.execute host (some library) context .empty with
    | (.ok (), s) => pure s.out.contents
    | (.error h, s) => throw (.ofHalt (s.set.getD library) h)

/-- The disk with the rendered text in a file, whose directory is made if it is missing. -/
def save (disk : Disk) (path text : String) : Except CommandFault Disk := do
  let disk ←
    match Path.parent? path with
    | some dir => (disk.makeDirectories dir).mapError .noDirectory
    | none => pure disk
  (disk.write path text.toUTF8).mapError (.unwritable path ·)

/-- Renders, and puts the text into the output file if there is one. -/
def run (r : RenderRequest) (host : Host) (disk : Disk) :
    Except CommandFault (String × Disk) := do
  let text ← r.text host disk
  match r.output with
  | none => pure (text, disk)
  | some path => return (text, ← save disk path text)

end RenderRequest

end Stencil.Command
