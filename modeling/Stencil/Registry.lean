import Stencil.Data.Table
import Stencil.Error

/-!
# Registries

Filters and tags are found by name.  A name can be registered once and replaced later, and it can be
banned: what is banned stays registered, but templates may not use it.
-/

namespace Stencil

/-- Things by name, and the names that are banned. -/
structure Registry (α : Type) where
  entries : Table α := []
  banned : List String := []

namespace Registry

variable {α : Type}

/-- What is registered under a name. -/
def find? (r : Registry α) (name : String) : Option α := r.entries.get? name

/-- Whether a name is banned. -/
def isBanned (r : Registry α) (name : String) : Bool := r.banned.contains name

/-- Registers a new name. -/
def register (r : Registry α) (kind : Registered) (name : String) (a : α) :
    Except Error (Registry α) :=
  if r.entries.has name then .error (.registration (.taken kind name))
  else .ok { r with entries := r.entries.insert name a }

/-- Gives a registered name a new meaning. -/
def replace (r : Registry α) (kind : Registered) (name : String) (a : α) :
    Except Error (Registry α) :=
  if r.entries.has name then .ok { r with entries := r.entries.insert name a }
  else .error (.registration (.noneToReplace kind name))

/-- Bans a registered name. -/
def ban (r : Registry α) (kind : Registered) (name : String) : Except Error (Registry α) :=
  if !r.entries.has name then .error (.registration (.noneToBan kind name))
  else if r.isBanned name then .error (.registration (.banned kind name))
  else .ok { r with banned := name :: r.banned }

/-- The names in rising order. -/
def names (r : Registry α) : List String := r.entries.keys.mergeSort (· ≤ ·)

/-- The banned names in rising order. -/
def bannedNames (r : Registry α) : List String := r.banned.mergeSort (· ≤ ·)

end Registry

end Stencil
