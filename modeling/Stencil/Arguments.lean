import Stencil.Error
import Stencil.Expr
import Stencil.Registry

/-!
# The arguments of a tag

A tag reads the tokens between its name and its closing delimiter from left to right.  A demand that
is not met is reported at the token that is there instead, or at the closing delimiter.
-/

namespace Stencil

/-- What a reader of arguments knows besides the tokens. -/
structure Surroundings where
  filters : Registry FilterRef
  /-- Where the closing delimiter stands. -/
  close : Position
  /-- How deep expressions may nest. -/
  depthLimit : Nat

/-- A reader of arguments. -/
abbrev Arguments := ReaderT Surroundings (StateT (List Token) (Except Error))

namespace Arguments

/-- Fails for want of `what`. -/
def want {α : Type} (what : Wanted) : Arguments α := fun env ts =>
  match ts with
  | [] => .error (.atPosition env.close (.wanted what none))
  | t :: _ => .error (.atPosition t.position (.wanted what (some t)))

/-- Fails at the token `t`. -/
def refuse {α : Type} (t : Token) (fault : ParseFault) : Arguments α := fun _ _ =>
  .error (.atPosition t.position fault)

/-- The next token, which stays. -/
def peek? : Arguments (Option Token) := fun _ ts => .ok (ts.head?, ts)

/-- The token behind the next one. -/
def peekSecond? : Arguments (Option Token) := fun _ ts => .ok (ts.tail.head?, ts)

/-- How many tokens are left. -/
def left : Arguments Nat := fun _ ts => .ok (ts.length, ts)

/-- Leaves out the next `n` tokens. -/
def skip (n : Nat) : Arguments Unit := fun _ ts => .ok ((), ts.drop n)

/-- All tokens that are left. -/
def takeAll : Arguments (List Token) := fun _ ts => .ok (ts, [])

/-- Takes the next token if `f` has an answer for it. -/
def takeIf {α : Type} (f : Lexeme → Option α) : Arguments (Option (α × Token)) := fun _ ts =>
  match ts with
  | [] => .ok (none, [])
  | t :: rest =>
    match f t.lexeme with
    | some a => .ok (some (a, t), rest)
    | none => .ok (none, t :: rest)

/-- Takes the next token if it is the symbol `s`. -/
def symbol? (s : Symbol) : Arguments (Option Token) := do
  return (← takeIf fun l => if l = .symbol s then some () else none).map (·.2)

/-- Takes the next token if it is the keyword `k`. -/
def keyword? (k : Keyword) : Arguments (Option Token) := do
  return (← takeIf fun l => if l = .keyword k then some () else none).map (·.2)

/-- Takes the next token if it is the identifier `name`, and says whether it was. -/
def word? (name : String) : Arguments Bool := do
  return (← takeIf fun l => if l = .identifier name then some () else none).isSome

/-- Takes an identifier if one is next. -/
def identifier? : Arguments (Option (String × Token)) :=
  takeIf fun
    | .identifier name => some name
    | _ => none

/-- Takes an identifier. -/
def identifier : Arguments (String × Token) := do
  match ← identifier? with
  | some found => pure found
  | none => want .identifier

/-- Takes a string. -/
def string : Arguments (String × Token) := do
  match ← takeIf fun | .string s => some s | _ => none with
  | some found => pure found
  | none => want .string

/-- Takes the symbol `s`. -/
def symbol (s : Symbol) : Arguments Token := do
  match ← symbol? s with
  | some t => pure t
  | none => want (.symbol s)

/-- Takes the keyword `k`. -/
def keyword (k : Keyword) : Arguments Token := do
  match ← keyword? k with
  | some t => pure t
  | none => want (.keyword k)

/-- Fails if the tag `tag` has tokens left. -/
def done (tag : String) : Arguments Unit := do
  match ← peek? with
  | none => pure ()
  | some t => refuse t (.leftover t tag)

/-- Runs a reader on the tokens of a tag. -/
def run {α : Type} (r : Arguments α) (env : Surroundings) (ts : List Token) : Except Error α := do
  let (a, _) ← r env ts
  pure a

end Arguments

end Stencil
