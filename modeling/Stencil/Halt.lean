import Stencil.Error

/-!
# How a computation stops

Compiling and rendering end with a result or an error.  Both follow references between templates,
and they count how deep they follow them; a computation whose count runs out has neither a result
nor an error, and nor has one in which an operation of the machine breaks down.  The state survives
in every case.
-/

namespace Stencil

/-- Why a computation has neither a result nor an error. -/
inductive Stop where
  /-- The count of references was too small. -/
  | references
  /-- An operation broke down and took the whole program with it. -/
  | breakdown

/-- Why a computation has no result. -/
inductive Halt where
  | error (e : Error)
  | exhausted {why : Stop}

/-- A computation on a state, which is kept however the computation ends. -/
abbrev Keeping (σ : Type) := ExceptT Halt (StateM σ)

namespace Halt

/-- The halt of a computation whose count of references was too small. -/
abbrev spent : Halt := @exhausted .references

/-- The halt of a computation in which an operation broke down. -/
abbrev crashed : Halt := @exhausted .breakdown

/-- The halt with its error located at `p` if it has no position yet. -/
def located (p : Position) : Halt → Halt
  | error e => error (e.located p)
  | @exhausted why => @exhausted why

end Halt

/-- The result of a computation that has no state. -/
def Halt.ofExcept {m : Type → Type} {α : Type} [Monad m] [MonadExceptOf Halt m]
    (r : Except Error α) : m α :=
  match r with
  | .ok a => pure a
  | .error e => throw (.error e)

end Stencil
