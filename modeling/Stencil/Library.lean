import Stencil.Loader
import Stencil.Settings
import Stencil.Tag
import Stencil.Value.Convert

/-!
# Sets of templates

A set bundles settings, filters and tags, loaders, values that all its templates see, and a cache of
compiled templates.  Everything that happens to a set is a function on this record.
-/

namespace Stencil

/-- A set of templates. -/
structure Library where
  name : String
  settings : Settings := {}
  catalog : Catalog := .builtin
  loaders : List Loader := []
  /-- The compiled templates by the paths they were loaded from. -/
  cache : Table Template := []
  globals : Bindings := []
  /-- Whether a compilation was ever begun. -/
  compiledAny : Bool := false
  /-- How many templates were compiled. -/
  serial : Nat := 0
  /-- The files that loaders can see. -/
  disk : Disk := {}

namespace Library

/-! ## Registrations -/

/-- Registers a filter. -/
def registerFilter (l : Library) (name : String) (f : FilterRef) : Except Error Library := do
  let filters ← l.catalog.filters.register .filter name f
  pure { l with catalog := { l.catalog with filters } }

/-- Replaces a filter. -/
def replaceFilter (l : Library) (name : String) (f : FilterRef) : Except Error Library := do
  let filters ← l.catalog.filters.replace .filter name f
  pure { l with catalog := { l.catalog with filters } }

/-- Registers a tag. -/
def registerTag (l : Library) (name : String) (t : TagRef) : Except Error Library := do
  let tags ← l.catalog.tags.register .tag name t
  pure { l with catalog := { l.catalog with tags } }

/-- Replaces a tag. -/
def replaceTag (l : Library) (name : String) (t : TagRef) : Except Error Library := do
  let tags ← l.catalog.tags.replace .tag name t
  pure { l with catalog := { l.catalog with tags } }

/-- Bans a filter, which is refused once a compilation was begun. -/
def banFilter (l : Library) (name : String) : Except Error Library := do
  if l.compiledAny then throw (.registration (.lateBan .filter name l.name))
  let filters ← l.catalog.filters.ban .filter name
  pure { l with catalog := { l.catalog with filters } }

/-- Bans a tag, which is refused once a compilation was begun. -/
def banTag (l : Library) (name : String) : Except Error Library := do
  if l.compiledAny then throw (.registration (.lateBan .tag name l.name))
  let tags ← l.catalog.tags.ban .tag name
  pure { l with catalog := { l.catalog with tags } }

/-- Gives all templates of the set a value to see. -/
def addGlobal (l : Library) (name : String) (value : Value) : Library :=
  { l with globals := l.globals.insert name value }

/-- Adds a loader behind the others. -/
def addLoader (l : Library) (loader : Loader) : Library :=
  { l with loaders := l.loaders ++ [loader] }

/-! ## Construction -/

/-- A set with the default settings. -/
def new (disk : Disk) (name : String) (loaders : List Loader) : Library := { name, loaders, disk }

/-- A set with the given settings: it loads from the template directories, or from the working
directory if there are none, and the bans and values of the settings are in force. -/
def ofSettings (disk : Disk) (name : String) (settings : Settings) : Except Error Library := do
  let loaders : List Loader :=
    match settings.templateDirs with
    | [] => [.files none]
    | dirs => dirs.map fun dir => .files (some dir)
  let l : Library := { name, settings, loaders, disk }
  let l ← settings.bannedFilters.foldlM banFilter l
  let l ← settings.bannedTags.foldlM banTag l
  pure (settings.globals.foldl (fun l g => l.addGlobal g.1 (.ofDatum g.2)) l)

/-! ## Cache -/

/-- Forgets the compiled templates. -/
def clearCache (l : Library) : Library := { l with cache := [] }

/-- The paths of the compiled templates in rising order. -/
def cachedNames (l : Library) : List String := l.cache.keys.mergeSort (· ≤ ·)

/-- The first path that a loader leads to and whose source it opens, and that source. -/
def open? (l : Library) (from? : Option String) (name : String) : Except Error (String × String) :=
  go (.error (.loader name .noLoader)) l.loaders
where
  /-- Tries loaders in order; `failure` is what the one before said. -/
  go (failure : Except Error (String × String)) : List Loader → Except Error (String × String)
    | [] => failure
    | loader :: rest =>
      let path := loader.resolve from? name
      match loader.open? l.disk path with
      | .ok source => .ok (path, source)
      | .error e => go (.error e) rest

/-- The compiled template that the first possible loader leads to. -/
def cached? (l : Library) (from? : Option String) (name : String) : Option Template :=
  l.loaders.findSome? fun loader => l.cache.get? (loader.resolve from? name)

/-- The line of a source with a number counted from one. -/
def lineOf? (source : String) (number : Nat) : Option String :=
  match number with
  | 0 => none
  | i + 1 => (Text.lines source.toList)[i]?.map String.ofList

/-- The source line that an error points at, if its template can still be found. -/
def rawLine? (l : Library) (e : Error) : Option String := do
  let p ← e.position?
  match l.cache.get? p.template with
  | some t => lineOf? t.source p.line
  | none =>
    l.loaders.findSome? fun loader =>
      match loader.open? l.disk p.template with
      | .ok source => lineOf? source p.line
      | .error _ => none

end Library

end Stencil
