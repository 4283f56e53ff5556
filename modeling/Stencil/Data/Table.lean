/-!
# Tables in insertion order

A table maps texts to values and remembers the order in which its keys first came.  Writing to a
key that is there keeps its place.
-/

namespace Stencil

/-- Entries in the order in which their keys were first inserted. -/
abbrev Table (α : Type u) := List (String × α)

namespace Table

variable {α : Type u}

/-- The value stored under a key. -/
def get? (t : Table α) (key : String) : Option α := List.lookup key t

/-- Whether the key is there. -/
def has (t : Table α) (key : String) : Bool := t.any fun e => e.1 == key

/-- The table with `value` under `key`: in the key's place, or at the end. -/
def insert (key : String) (value : α) : Table α → Table α
  | [] => [(key, value)]
  | (k, v) :: t => if k = key then (key, value) :: t else (k, v) :: insert key value t

/-- The keys in order. -/
def keys (t : Table α) : List String := t.map (·.1)

/-- The table of the given entries; a later entry overwrites an earlier one of the same key. -/
def ofList (entries : List (String × α)) : Table α :=
  entries.foldl (fun t e => insert e.1 e.2 t) []

/-- The entries in rising order of their keys. -/
def sorted (t : Table α) : Table α := t.mergeSort fun a b => a.1 ≤ b.1

end Table

end Stencil
