import Stencil.Disk
import Stencil.Error

/-!
# Loaders

A loader finds the source of a template by its name.  It first settles the path that the name leads
to, seen from the template that names it, and then opens that path.
-/

namespace Stencil

/-- Where templates come from. -/
inductive Loader where
  /-- The files below a directory, or, without one, those near the template that names them. -/
  | files (base : Option String)
  /-- Templates in memory, by name. -/
  | memory (templates : Table String)

namespace Loader

/-- The path that `name` leads to from the template `from?`. -/
def resolve (loader : Loader) (from? : Option String) (name : String) : String :=
  match loader with
  | memory _ => name
  | files base =>
    if Path.isAbsolute name then name
    else
      match base, from? with
      | some dir, _ => Path.join dir name
      | none, some referrer =>
        match Path.parent? referrer with
        | some parent => Path.join parent name
        | none => name
      | none, none => name

/-- The source at a path. -/
def open? (loader : Loader) (disk : Disk) (path : String) : Except Error String :=
  match loader with
  | memory templates =>
    match templates.get? path with
    | some source => .ok source
    | none => .error (.loader path .notInMemory)
  | files _ =>
    match disk.readText path with
    | .ok source => .ok source
    | .error fault => .error (.loader path (.file fault.message))

/-- How many templates a loader holds in memory. -/
def held : Loader → Nat
  | memory templates => templates.length
  | files _ => 0

/-- The name of the template at a path below the directory, which has slashes for backslashes. -/
def nameOf (path : String) : String := path.map fun c => if c = '\\' then '/' else c

/-- The names of all templates below the directory, in rising order. -/
def names (loader : Loader) (disk : Disk) : List String :=
  match loader with
  | files (some dir) => ((disk.files dir).map nameOf).mergeSort (· ≤ ·)
  | _ => []

end Loader

end Stencil
