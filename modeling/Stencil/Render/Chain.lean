import Stencil.Render.Eval

/-!
# Inheritance

A template that extends another one is rendered by rendering its oldest ancestor.  A block of that
ancestor shows the body that the youngest template gives it; the bodies of the templates between are
within reach of the one that overrides them.
-/

namespace Stencil

/-- The name in the value of an expression that should name a template. -/
def templateName (fault : String → RunFault) (v : Value) : Render String :=
  match v.string? with
  | some name => pure name
  | none => Render.fail (fault v.kind)

/-- Turns the error of a loader into one that names what was to be done with the template. -/
def explain (fault : String → RunFault) (e : Error) : Error :=
  if e.isLoader then .execution none (fault e.message) (some e) else e

/-- The parent of a template. -/
def Template.parent? (j : Jumps) (t : Template) : Render (Option Template) := do
  match t.parent with
  | none => pure none
  | some (.linked parent) => pure (some parent)
  | some (.named e p) =>
    let name ← Render.located p do templateName .extendsName (← e.eval j)
    Render.requireSet
    Render.located p do
      match ← Render.attempt (Render.load (some t.name) name) with
      | .ok parent => pure (some parent)
      | .error e => throw (.error (explain (.cannotExtend name) e))

/-- The ancestors of the head of `chain`, of which there may be `room` more, in front of `chain`. -/
def ancestry (j : Jumps) (youngest : Template) (limit : Nat) :
    (room : Nat) → (oldest : Template) → (chain : List Template) → Render (List Template)
  | room, oldest, chain => do
    match ← oldest.parent? j with
    | none => pure chain
    | some parent =>
      if chain.any fun t => t.name == parent.name then
        Render.fail (.cyclicInheritance oldest.name parent.name)
      else
        match room with
        | 0 => Render.fail (.longChain youngest.name limit)
        | room + 1 => ancestry j youngest limit room parent (parent :: chain)

/-- The template and its ancestors, the oldest first. -/
def Template.chain (j : Jumps) (t : Template) : Render (List Template) := do
  let limit := (← get).recursionLimit
  ancestry j t limit (limit - 1) t [t]

/-- Renders a template through its oldest ancestor. -/
def Template.render (j : Jumps) (t : Template) : Render Unit := do
  match ← t.chain j with
  | [] => pure ()
  | oldest :: younger => Render.withChain (oldest :: younger) (j.run oldest.nodes)

/-- The bodies that the templates of a chain give to a block, the youngest first. -/
def bodiesOf (name : String) (chain : List Template) : List Body :=
  (chain.filterMap fun t => t.block? name).reverse

/-- Renders a block: the youngest body, or what the block itself holds if no template of the chain
knows the block. -/
def renderBlock (j : Jumps) (name : String) (own : Render Unit) : Render Unit := do
  match bodiesOf name (← get).chain with
  | [] => Render.withBlock [] own
  | body :: overridden => Render.withBlock overridden (j.run body)

end Stencil
