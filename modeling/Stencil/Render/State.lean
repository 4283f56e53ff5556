import Stencil.Calendar.Show
import Stencil.Library.Compile
import Stencil.Text.Escape
import Stencil.Value.Order
import Stencil.Value.Signature

/-!
# The state of a render

A render looks names up in its own scopes, then in the data of the caller, then in the values of the
set.  The state survives errors, and whatever a tag changes for its body is set back however the
body ends.
-/

namespace Stencil

/-! ## Output -/

/-- Where output goes. -/
inductive Sink where
  /-- Text, the pieces in reverse order, and how many more characters are accepted. -/
  | text (written : List String) (room : Option Nat)
  /-- Bytes, and how many more are accepted. -/
  | bytes (written : ByteArray) (room : Nat)

namespace Sink

/-- A sink that accepts everything. -/
def empty : Sink := text [] none

/-- The sink after it was offered `s`, and whether it accepted all of it. -/
def write (sink : Sink) (s : String) : Sink × Bool :=
  match sink with
  | text written none => (text (s :: written) none, true)
  | text written (some room) =>
    if s.length ≤ room then (text (s :: written) (some (room - s.length)), true)
    else (text (String.ofList (s.toList.take room) :: written) (some 0), false)
  | bytes written room =>
    let offered := s.toUTF8
    if offered.size ≤ room then (bytes (written ++ offered) (room - offered.size), true)
    else (bytes (written ++ offered.extract 0 room) 0, false)

/-- The error of the sink when it accepts nothing more. -/
def failure : Sink → Error
  | text _ _ => .write
  | bytes _ _ => .io "sink is full"

/-- The text of bytes.  The start of a character at the end, where the bytes were cut, is shown as
the replacement character. -/
def textOf (bytes : ByteArray) : String :=
  let upTo (cut : Nat) : Option String :=
    (String.fromUTF8? (bytes.extract 0 (bytes.size - cut))).map fun s =>
      if cut = 0 then s else s ++ "\uFFFD"
  ([0, 1, 2, 3].findSome? upTo).getD ""

/-- The text in the sink. -/
def contents : Sink → String
  | text written _ => String.join written.reverse
  | bytes written _ => textOf written

end Sink

/-! ## State -/

/-- The state of a render. -/
structure State where
  /-- The set of the template, unless it is gone. -/
  set : Option Library
  /-- The data of the caller. -/
  context : Bindings
  /-- The values of the set when the render began. -/
  globals : Bindings
  /-- The scopes, the innermost first. -/
  scopes : List Bindings
  autoescape : Bool
  /-- The template that is rendered and its ancestors, the root first. -/
  chain : List Template := []
  /-- For each block that is being rendered, the bodies that it overrides, the nearest first. -/
  blocks : List (List Body) := []
  /-- How many includes and macro calls are being rendered. -/
  depth : Nat := 0
  recursionLimit : Nat
  out : Sink := .empty

/-- What the host gives meaning to.  Functions may look at the state and change it. -/
structure Host where
  filter : (key : String) → Value → Option Value → Except Error Value
  function : (key : String) → (data : Value) → List Value → State → Except Error Value × State
  method : (key : String) → List Value → Except Error Value
  /-- What is written for the text of a body, or for the error that it ended with. -/
  captured : (key : String) → Except Error String → Except Error String
  /-- What is written for a value. -/
  shown : (key : String) → Value → Except Error String
  /-- The moment at which the render takes place. -/
  now : Calendar.Moment
  sorter : Sorter := .inserting

/-- A host that adds nothing. -/
def Host.bare (now : Calendar.Moment) : Host where
  filter := fun _ v _ => .ok v
  function := fun _ _ _ s => (.ok .nil, s)
  method := fun _ _ => .ok .nil
  captured := fun _ r => r
  shown := fun _ v => .ok v.text
  now := now

/-- A step of a render. -/
abbrev Render := ReaderT Host (Keeping State)

namespace State

/-- The scope that every render starts with: it knows the block being rendered. -/
def baseScope : Bindings := [("block", .map [("Super", .func .super)])]

/-- The state in which a template is executed. -/
def start (set : Option Library) (context : Bindings) (options : RenderOptions) (out : Sink) :
    State where
  set := set
  context := context
  globals := (set.map (·.globals)).getD []
  scopes := [baseScope]
  autoescape := options.autoescape
  recursionLimit := options.recursionLimit
  out := out

/-- The value of a name, which is nil if nothing gives it one. -/
def lookup (s : State) (name : String) : Value :=
  match s.scopes.findSome? fun scope => scope.get? name with
  | some v => v
  | none =>
    match s.context.get? name with
    | some v => v
    | none => (s.globals.get? name).getD .nil

/-- The state with a name bound in the innermost scope. -/
def bind (s : State) (name : String) (v : Value) : State :=
  match s.scopes with
  | [] => s
  | scope :: rest => { s with scopes := scope.insert name v :: rest }

end State

namespace Render

/-- Fails with a fault that is not located yet. -/
def fail {α : Type} (fault : RunFault) : Render α := throw (.error (.run fault))

/-- The result of a step that can only fail for a reason of its own. -/
def ofFault {α : Type} (r : Except RunFault α) : Render α :=
  match r with
  | .ok a => pure a
  | .error fault => fail fault

/-- Gives an error of `r` a position if it has none. -/
def located {α : Type} (p : Position) (r : Render α) : Render α := fun host s =>
  match r host s with
  | (.error h, s') => (.error (h.located p), s')
  | (.ok a, s') => (.ok a, s')

/-- Runs `r` in the state that `enter` makes; `leave` sets back, from the state before and the one
after, however `r` ends. -/
def within {α : Type} (enter : State → State) (leave : State → State → State) (r : Render α) :
    Render α := fun host s =>
  let (result, s') := r host (enter s)
  (result, leave s s')

/-- Runs `r` with a new innermost scope. -/
def inScope {α : Type} (bindings : List (String × Value)) (r : Render α) : Render α :=
  within (fun s => { s with scopes := Table.ofList bindings :: s.scopes })
    (fun _ s => { s with scopes := s.scopes.tail }) r

/-- Runs `r` with a new scope that hides all others. -/
def isolated {α : Type} (bindings : List (String × Value)) (r : Render α) : Render α :=
  within (fun s => { s with scopes := [Table.ofList bindings, State.baseScope] })
    (fun before s => { s with scopes := before.scopes }) r

/-- Runs `r` with escaping turned on or off. -/
def withAutoescape {α : Type} (enabled : Bool) (r : Render α) : Render α :=
  within (fun s => { s with autoescape := enabled })
    (fun before s => { s with autoescape := before.autoescape }) r

/-- Runs `r` one level deeper, unless the limit is reached. -/
def deeper {α : Type} (what : String) (r : Render α) : Render α := do
  let s ← get
  if s.recursionLimit ≤ s.depth then fail (.tooDeep s.recursionLimit what)
  else
    within (fun s => { s with depth := s.depth + 1 }) (fun _ s => { s with depth := s.depth - 1 }) r

/-- Runs `r` with another inheritance chain. -/
def withChain {α : Type} (chain : List Template) (r : Render α) : Render α :=
  within (fun s => { s with chain }) (fun before s => { s with chain := before.chain }) r

/-- Runs `r` inside a block that overrides the given bodies. -/
def withBlock {α : Type} (overridden : List Body) (r : Render α) : Render α :=
  within (fun s => { s with blocks := overridden :: s.blocks })
    (fun _ s => { s with blocks := s.blocks.tail }) r

/-- Writes text as it is. -/
def write (text : String) : Render Unit := fun _ s =>
  let (out, accepted) := s.out.write text
  (if accepted then .ok () else .error (.error s.out.failure), { s with out })

/-- Runs `r` and gives back what it writes. -/
def capture (r : Render Unit) : Render String := fun host s =>
  let (result, s') := r host { s with out := .empty }
  let text := s'.out.contents
  (result.map fun _ => text, { s' with out := s.out })

/-- Writes a value, escaped unless it is safe or escaping is off. -/
def writeValue (v : Value) : Render Unit := do
  let s ← get
  write (if s.autoescape && !v.isSafe then Text.escapeHtml v.text else v.text)

/-- Fails unless the set of the template still exists. -/
def requireSet : Render Unit := do
  if (← get).set.isNone then fail .noSet

/-- Loads a template that is named during the render. -/
def load (referrer : Option String) (name : String) : Render Template := fun _ s =>
  match s.set with
  | none => (.error (.error (.run .noSet)), s)
  | some l =>
    let (result, l) := ((Library.load referrer name).run l).run
    (result, { s with set := some l })

/-- Runs `r` and gives back its error, if it ends with one. -/
def attempt {α : Type} (r : Render α) : Render (Except Error α) := fun host s =>
  match r host s with
  | (.ok a, s') => (.ok (.ok a), s')
  | (.error (.error e), s') => (.ok (.error e), s')
  | (.error (@Halt.exhausted why), s') => (.error (@Halt.exhausted why), s')

end Render

end Stencil
