import Stencil.Command
import Stencil.Value.Convert
import Stencil.Data.Json
import Stencil.Data.Toml
import Stencil.Data.Yaml
import Stencil.Settings.Read

/-!
# Settings and contexts in files

Commands read settings and contexts from data files.  The extension of a file tells its format.
-/

namespace Stencil

/-- The formats of data files. -/
inductive DataFormat where
  | json
  | yaml
  | toml
deriving DecidableEq

namespace DataFormat

/-- The format that an extension in small letters stands for. -/
def ofExtension? : String → Option DataFormat
  | "json" => some json
  | "yml" | "yaml" => some yaml
  | "toml" => some toml
  | _ => none

/-- The data that a text of this format spells. -/
def read? (format : DataFormat) (s : List Char) : Option Datum :=
  match format with
  | json => Json.read? s
  | yaml => Yaml.read? s
  | toml => Toml.read? s

end DataFormat

namespace Command

/-- The data in a file and their format. -/
def readData (disk : Disk) (role : FileRole) (path : String) :
    Except CommandFault (DataFormat × Datum) := do
  let content ← (disk.readText path).mapError (.unreadable role path ·)
  let extension := ((Path.extension? path).getD "").toLower
  match DataFormat.ofExtension? extension with
  | none => throw (.unknownFormat role extension path)
  | some format =>
    match format.read? content.toList with
    | none => throw .malformed
    | some d => pure (format, d)

/-- The settings in a file.  The template directories in it are relative to the directory of the
file. -/
def readSettings (disk : Disk) (path : String) : Except CommandFault Settings := do
  let (format, d) ← readData disk .config path
  match Settings.ofDatum? (format == .yaml) d with
  | none => throw .malformed
  | some s =>
    match Path.parent? path with
    | none => pure s
    | some parent => pure { s with templateDirs := s.templateDirs.map (Path.join parent) }

/-- The settings in a file if one is given, with more template directories behind its own. -/
def settingsWith (disk : Disk) (config : Option String) (dirs : List String) :
    Except CommandFault Settings := do
  let s ←
    match config with
    | some path => readSettings disk path
    | none => pure {}
  pure { s with templateDirs := s.templateDirs ++ dirs }

/-- The context in a file. -/
def readContext (disk : Disk) (path : String) : Except CommandFault Bindings := do
  let (_, d) ← readData disk .context path
  (Context.ofDatum d).mapError .engine

end Command

end Stencil
