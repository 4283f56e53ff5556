import Stencil.Data.Toml.Value

/-!
# TOML

A document is a sequence of entries under headers.  A header opens a table, or appends one to a list
of tables; nothing may be defined twice.
-/

namespace Stencil.Toml

/-- What a document holds while it is read. -/
inductive Node where
  /-- A finished value. -/
  | value (d : Datum)
  /-- A table, and whether a header or an entry has defined it. -/
  | table (entries : List (String × Node)) (defined : Bool)
  /-- A list of tables, the last one first. -/
  | tables (items : List (List (String × Node)))

/-- The entries of the table that is open in a node. -/
def Node.opened? : Node → Option (List (String × Node))
  | .table entries _ => some entries
  | .tables (entries :: _) => some entries
  | _ => none

/-- The node with other entries in the table that is open in it. -/
def Node.reopen (entries : List (String × Node)) : Node → Node
  | .table _ defined => .table entries defined
  | .tables (_ :: rest) => .tables (entries :: rest)
  | n => n

/-- Changes the entries of the table at a path; tables on the way are made if they are missing. -/
def within (change : List (String × Node) → Option (List (String × Node))) :
    List String → List (String × Node) → Option (List (String × Node))
  | [], entries => change entries
  | k :: ks, entries =>
    match entries.lookup k with
    | none => do pure (entries ++ [(k, .table (← within change ks []) false)])
    | some n => do
      let inner ← n.opened?
      pure (Table.insert k (n.reopen (← within change ks inner)) entries)

/-- Opens the table with a name by a header of its own. -/
def openTable (k : String) (entries : List (String × Node)) : Option (List (String × Node)) :=
  match entries.lookup k with
  | none => some (entries ++ [(k, .table [] true)])
  | some (.table inner false) => some (Table.insert k (.table inner true) entries)
  | some _ => none

/-- Appends a table to the list with a name. -/
def appendTable (k : String) (entries : List (String × Node)) : Option (List (String × Node)) :=
  match entries.lookup k with
  | none => some (entries ++ [(k, .tables [[]])])
  | some (.tables items) => some (Table.insert k (.tables ([] :: items)) entries)
  | some _ => none

/-- Defines an entry in a table; all parts of its key but the last name tables that no header has
defined. -/
def define (d : Datum) : List String → List (String × Node) → Option (List (String × Node))
  | [], _ => none
  | [k], entries =>
    if (entries.lookup k).isSome then none else some (entries ++ [(k, .value d)])
  | k :: ks, entries =>
    match entries.lookup k with
    | none => do pure (entries ++ [(k, .table (← define d ks []) false)])
    | some (.table inner false) => do
      pure (Table.insert k (.table (← define d ks inner) false) entries)
    | some _ => none

mutual

/-- The data of a node. -/
def Node.datum : Node → Datum
  | .value d => d
  | .table entries _ => .record (dataOf entries)
  | .tables items => .list (listOf items).reverse

/-- The data of the entries of a table. -/
def dataOf : List (String × Node) → List (String × Datum)
  | [] => []
  | ⟨k, n⟩ :: rest => (k, n.datum) :: dataOf rest

/-- The data of tables. -/
def listOf : List (List (String × Node)) → List Datum
  | [] => []
  | entries :: rest => .record (dataOf entries) :: listOf rest

end

/-- Takes a header, if one is next: whether it appends to a list, and the path. -/
def header? : Reader (Option (Bool × List String)) := do
  if !(← Reader.skip? '[') then pure none
  else
    let appends ← Reader.skip? '['
    gap
    let path ← key (← Reader.left)
    Reader.expect ']'
    if appends then Reader.expect ']'
    pure (some (appends, path))

/-- Takes the end of a line or of the document. -/
def finish : Reader Unit := do
  gap
  comment
  if !(← lineEnd?) then
    if (← Reader.peek?).isSome then Reader.refuse

/-- Takes the lines of a document; `path` leads to the table that is open. -/
def document : (fuel : Nat) → (path : List String) → List (String × Node) →
    Reader (List (String × Node))
  | 0, _, _ => Reader.refuse
  | fuel + 1, path, root => do
    blankLines (← Reader.left)
    if (← Reader.peek?).isNone then pure root
    else
      match ← header? with
      | some (appends, target) =>
        finish
        match target.getLast? with
        | none => Reader.refuse
        | some k =>
          let change := if appends then appendTable k else openTable k
          match within change target.dropLast root with
          | some root => document fuel target root
          | none => Reader.refuse
      | none =>
        let k ← key (← Reader.left)
        Reader.expect '='
        gap
        let d ← value (← Reader.left)
        finish
        match within (define d k) path root with
        | some root => document fuel path root
        | none => Reader.refuse

/-- The data that a document holds. -/
def read? (s : List Char) : Option Datum :=
  (Reader.all (document (s.length + 1) [] []) s).map fun root => .record (dataOf root)

end Stencil.Toml
