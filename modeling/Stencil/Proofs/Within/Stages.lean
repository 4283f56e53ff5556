import Stencil.Proofs.Keeping
import Stencil.Proofs.Render.Points
import Stencil.Proofs.Within.Furnish

/-!
# The stages of a render

A render of a template goes from stage to stage: it turns to the parts of what it executes, calls
macros, shows bodies of blocks and includes other templates, and before a template is rendered its
ancestors are found. The templates that take part are those whose turn comes on the way, and those
whose macros are imported.
-/

namespace Stencil

/-! ## Stages -/

/-- A path comes to the call of a function on arguments that fit it, in some state. -/
inductive Task.Calls (host : Host) (j : Jumps) :
    Task → State → Function → List Value → State → Prop where
  | explicit {f args rest s values s'} (done : evalAll j args host s = (.ok values, s'))
      (fits : f.check values = .ok ()) :
      Calls host j (.path (.func f) (.call args :: rest)) s f values s'
  | implicit {f segments s} (noCall : ∀ args rest, segments ≠ .call args :: rest)
      (none : f.minArgs = 0) (fits : f.check [] = .ok ()) :
      Calls host j (.path (.func f) segments) s f [] s

/-- A render: the host, the template, the state it starts in, and how many jumps it may nest. -/
structure Run where
  host : Host
  template : Template
  start : State
  fuel : Nat

mutual

/-- In the run the chain of a template is being found, for which jumps may nest to the depth `fuel`.
It has come to `oldest`, whose descendants are `younger`, and `room` more ancestors are allowed. -/
inductive Run.Finds (r : Run) :
    (fuel room : Nat) → (oldest : Template) → (younger : List Template) → State → Prop where
  | rendered : Finds r r.fuel (r.start.recursionLimit - 1) r.template [] r.start
  /-- A template that is included. -/
  | included {fuel target base bindings only ifExists t s s₁ values s₂}
      (stage : Stage r fuel (.statement (.includes target base bindings only ifExists)) s)
      (found : target.find? (.upTo fuel) base ifExists r.host s = (.ok (some t), s₁))
      (bound : evalBindings (.upTo fuel) bindings r.host s₁ = (.ok values, s₂))
      (shallow : s₂.depth < s₂.recursionLimit) :
      Finds r fuel (s₂.recursionLimit - 1) t []
        { s₂ with
          scopes := if only then [Table.ofList values, State.baseScope]
            else Table.ofList values :: s₂.scopes
          depth := s₂.depth + 1 }
  | parent {fuel room oldest younger parent s s'}
      (finds : Finds r fuel (room + 1) oldest younger s)
      (found : oldest.parent? (.upTo fuel) r.host s = (.ok (some parent), s'))
      (fresh : ¬(oldest :: younger).any fun t => t.name == parent.name) :
      Finds r fuel room parent (oldest :: younger) s'

/-- The run comes to a task in some state, where jumps may nest to the depth `fuel`. -/
inductive Run.Stage (r : Run) : (fuel : Nat) → Task → State → Prop where
  /-- The name of a parent. -/
  | named {fuel room t younger e p s} (finds : Finds r fuel room t younger s)
      (parent : t.parent = some (.named e p)) : Stage r fuel (.expr e) s
  /-- The oldest ancestor. -/
  | root {fuel room t younger s s'} (finds : Finds r (fuel + 1) room t younger s)
      (none : t.parent? (.upTo (fuel + 1)) r.host s = (.ok none, s')) :
      Stage r fuel (.nodes t.nodes) { s' with chain := t :: younger }
  | turn {fuel task s task' s'} (stage : Stage r fuel task s)
      (starts : Task.Starts r.host (.upTo fuel) task s task' s') : Stage r fuel task' s'
  /-- A block that no template of the chain gives a body. -/
  | own {fuel name body s} (stage : Stage r fuel (.statement (.block name body)) s)
      (none : bodiesOf name s.chain = []) :
      Stage r fuel (.nodes body) { s with blocks := [] :: s.blocks }
  /-- The youngest body of a block. -/
  | youngest {fuel name own body overridden s}
      (stage : Stage r (fuel + 1) (.statement (.block name own)) s)
      (some : bodiesOf name s.chain = body :: overridden) :
      Stage r fuel (.nodes body) { s with blocks := overridden :: s.blocks }
  /-- The body that `block.Super` shows. -/
  | overridden {fuel task s f args body rest frames s'} (stage : Stage r (fuel + 1) task s)
      (calls : task.Calls r.host (.upTo (fuel + 1)) s f args s') (super : f.callback = .super)
      (frame : s'.blocks = (body :: rest) :: frames) :
      Stage r fuel (.nodes body) { s' with blocks := rest :: s'.blocks, out := .empty }
  /-- The default of a parameter for which there is no argument. -/
  | default {fuel name e params s} (binds : Binds r (fuel + 1) ((name, some e) :: params) [] s) :
      Stage r fuel (.expr e) s
  /-- The body of a macro that is called. -/
  | called {fuel task s f args s' m values s''} (stage : Stage r (fuel + 1) task s)
      (calls : task.Calls r.host (.upTo (fuel + 1)) s f args s') (body : f.callback = .body m)
      (shallow : s'.depth < s'.recursionLimit)
      (bound : bindParameters (.upTo (fuel + 1)) m.params args r.host
        { s' with depth := s'.depth + 1 } = (.ok values, s'')) :
      Stage r fuel (.nodes m.body)
        { s'' with scopes := Table.ofList values :: s''.scopes, out := .empty }

/-- The run binds the parameters that are left of a macro to the arguments that are left. -/
inductive Run.Binds (r : Run) :
    (fuel : Nat) → List (String × Option Expr) → List Value → State → Prop where
  | call {fuel task s f args s' m} (stage : Stage r fuel task s)
      (calls : task.Calls r.host (.upTo fuel) s f args s') (body : f.callback = .body m)
      (shallow : s'.depth < s'.recursionLimit) :
      Binds r fuel m.params args { s' with depth := s'.depth + 1 }
  | given {fuel name default params v args s}
      (binds : Binds r fuel ((name, default) :: params) (v :: args) s) : Binds r fuel params args s
  | missing {fuel name params s} (binds : Binds r fuel ((name, none) :: params) [] s) :
      Binds r fuel params [] s
  | next {fuel name e params s v s'} (binds : Binds r fuel ((name, some e) :: params) [] s)
      (done : (Jumps.upTo fuel).eval e r.host s = (.ok v, s')) : Binds r fuel params [] s'

end

/-- The template takes part in the run: it is the one that is rendered, or one that is included, or
an ancestor of such a template, or one of its macros is imported. -/
inductive Run.Involves (r : Run) (l : Library) (t : Template) : Prop where
  | found {fuel room younger s} (finds : r.Finds fuel room t younger s)
  | imported {fuel macros s m} (stage : r.Stage fuel (.statement (.imports macros)) s)
      (mem : m ∈ macros) (furnished : l.Furnishes t) (exported : ∃ e ∈ t.macros, e.2 = m.2)

/-- The places in the sources of the templates that take part. -/
def Run.places (r : Run) (l : Library) : Vocabulary where
  position p := ∃ t, r.Involves l t ∧ (t = r.template ∨ l.Holds t.name t.source) ∧
    ∃ ts, Token.tokenize l.settings.trimming t.name t.source = .ok ts ∧
      ∃ token ∈ ts, token.position = p
  linked := l.Furnishes
  imported m := ∃ t, l.Furnishes t ∧ ∃ e ∈ t.macros, e.2 = m

end Stencil
