import Stencil.Settings

/-!
# Reading settings

Settings are data with one entry for each setting.  What is missing keeps its default, and what is
not a setting is ignored.
-/

namespace Stencil.Settings

/-- A flag. -/
def flag? : Datum → Option Bool
  | .bool b => some b
  | _ => none

/-- A count. -/
def count? : Datum → Option Nat
  | .int n => if 0 ≤ n && n < 18446744073709551616 then some n.toNat else none
  | _ => none

/-- A text. -/
def text? : Datum → Option String
  | .text s => some s
  | _ => none

/-- A list of texts.  With `blank`, nothing is the empty list. -/
def texts? (blank : Bool) : Datum → Option (List String)
  | .list items => items.mapM text?
  | .null => if blank then some [] else none
  | _ => none

/-- Data by name.  With `blank`, nothing is the empty record. -/
def data? (blank : Bool) : Datum → Option (Table Datum)
  | .record entries => some entries
  | .null => if blank then some [] else none
  | _ => none

/-- The settings with the setting `key` taken from `d`. -/
def withEntry? (blank : Bool) (s : Settings) (key : String) (d : Datum) : Option Settings :=
  match key with
  | "autoescape" => do pure { s with autoescape := ← flag? d }
  | "trim_blocks" => do pure { s with trimBlocks := ← flag? d }
  | "lstrip_blocks" => do pure { s with lstripBlocks := ← flag? d }
  | "debug" => do pure { s with debug := ← flag? d }
  | "max_recursion_depth" => do pure { s with maxRecursionDepth := ← count? d }
  | "max_expression_depth" => do pure { s with maxExpressionDepth := ← count? d }
  | "max_nesting_depth" => do pure { s with maxNestingDepth := ← count? d }
  | "template_dirs" => do pure { s with templateDirs := ← texts? blank d }
  | "banned_filters" => do pure { s with bannedFilters := ← texts? blank d }
  | "banned_tags" => do pure { s with bannedTags := ← texts? blank d }
  | "globals" => do pure { s with globals := ← data? blank d }
  | _ => some s

/-- The names of the settings in order. -/
def keys : List String :=
  ["autoescape", "trim_blocks", "lstrip_blocks", "debug", "max_recursion_depth",
   "max_expression_depth", "max_nesting_depth", "template_dirs", "banned_filters", "banned_tags",
   "globals"]

/-- The settings that data spell: a record, or a list of the first settings in order.  With `blank`,
nothing spells the default settings. -/
def ofDatum? (blank : Bool) (d : Datum) : Option Settings :=
  match d with
  | .record entries => entries.foldlM (fun s e => s.withEntry? blank e.1 e.2) {}
  | .list items =>
    if blank || keys.length < items.length then none
    else (keys.zip items).foldlM (fun s e => s.withEntry? blank e.1 e.2) {}
  | .null => if blank then some {} else none
  | _ => none

end Stencil.Settings
