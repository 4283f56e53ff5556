import Stencil.Proofs.Alike.Same
import Stencil.Proofs.Super

/-!
# Includes that are cut off

An include with `only` hides the scopes around it from the template that it shows. What is left of
the state around it is little: which bodies the block around the include overrides, which
`block.Super` shows in the template as well (`include_only_shows_super`), and the inheritance chain,
until the ancestors of the template are known. Where two states agree on this and on what every
template may see, the include does the same in both, whatever the scopes, the loops and the blocks
around it are (`includes_only_same`).
-/

namespace Stencil

open Render

/-- Two states in which a template with scopes of its own sees the same outside of it. -/
structure State.SameOutside (s s' : State) : Prop where
  set : s.set = s'.set
  context : s.context = s'.context
  globals : s.globals = s'.globals
  autoescape : s.autoescape = s'.autoescape
  depth : s.depth = s'.depth
  recursionLimit : s.recursionLimit = s'.recursionLimit

/-- No name has to be evaluated to find the ancestors of the template. -/
inductive Template.Rooted : Template → Prop where
  | root {t} : t.parent = none → Template.Rooted t
  | child {t parent} : t.parent = some (.linked parent) → Template.Rooted parent → Template.Rooted t

/-! ## Ancestors that are linked -/

/-- The ancestors of a rooted template do not depend on the state. -/
theorem ancestry_of_rooted {oldest : Template} (h : oldest.Rooted) (j : Jumps) (youngest : Template)
    (limit room : Nat) (chain : List Template) (host : Host) :
    ∃ x, ∀ s, ancestry j youngest limit room oldest chain host s = (x, s) := by
  induction h generalizing room chain with
  | root hroot => exact ⟨.ok chain, fun s => ancestry_root room hroot⟩
  | @child t parent hparent _ ih =>
    have hfound (s : State) : t.parent? j host s = (.ok (some parent), s) := by
      unfold Template.parent?
      rw [hparent]
      rfl
    cases hnew : chain.any fun t => t.name == parent.name with
    | true =>
      refine ⟨.error (.error (.run (.cyclicInheritance t.name parent.name))), fun s => ?_⟩
      unfold ancestry
      rw [run_bind, hfound]
      dsimp only
      rw [hnew]
      rfl
    | false =>
      cases room with
      | zero =>
        refine ⟨.error (.error (.run (.longChain youngest.name limit))), fun s => ?_⟩
        unfold ancestry
        rw [run_bind, hfound]
        dsimp only
        rw [hnew]
        rfl
      | succ room =>
        obtain ⟨x, hx⟩ := ih room (parent :: chain)
        exact ⟨x, fun s => (ancestry_linked room hparent hnew).trans (hx s)⟩

theorem chain_of_rooted {t : Template} (h : t.Rooted) (j : Jumps) (limit : Nat) (host : Host) :
    ∃ x, ∀ s, s.recursionLimit = limit → t.chain j host s = (x, s) := by
  obtain ⟨x, hx⟩ := ancestry_of_rooted h j t limit (limit - 1) [t] host
  refine ⟨x, fun s hs => ?_⟩
  unfold Template.chain
  rw [run_get_bind, hs]
  exact hx s

/-! ## Renders that see the same -/

variable {host : Host}

/-- Renders that agree end in the same way and write the same to the same sink. -/
theorem Render.Agrees.same {r : Render Unit} (h : Agrees .same host r r) {s s' : State}
    (hs : s.Same s') (hout : s.out = s'.out) :
    (r host s).1 = (r host s').1 ∧ (r host s).2.out = (r host s').2.out := by
  have houtcome := h.outcome (.same s.out.failure) s s' (alike_same.mpr hs) ⟨hout, rfl⟩
  generalize r host s = e at houtcome ⊢
  generalize r host s' = e' at houtcome ⊢
  cases houtcome with
  | together hend _ _ _ hout =>
    refine ⟨?_, hout.1⟩
    cases hend with
    | ok => rfl
    | error hh =>
      cases hh with
      | error he => rw [he]
      | exhausted => rfl
  | refused hout => exact ⟨rfl, hout⟩
  | parted h => exact h.elim

section Modest

variable (hhost : host.Modest)
include hhost

/-- Until the ancestors of a template are known the chain around it counts, unless the template is
rooted. -/
theorem render_same (fuel : Nat) {t : Template} {s s' : State} (h : s.SameOutside s')
    (hscopes : s.scopes = s'.scopes)
    (hoverridden : s.blocks.head?.getD [] = s'.blocks.head?.getD [])
    (hchain : s.chain = s'.chain ∨ t.Rooted) (hout : s.out = s'.out) :
    (t.render (.upTo fuel) host s).1 = (t.render (.upTo fuel) host s').1 ∧
      (t.render (.upTo fuel) host s).2.out = (t.render (.upTo fuel) host s').2.out := by
  have hL := lawful_same hhost
  have hj := agree_upTo hL fuel
  rcases hchain with hchain | hrooted
  · exact (agrees_render hL hj rfl).same
      ⟨h.set, h.context, h.globals, hscopes, h.autoescape, hchain,
      hoverridden, h.depth, h.recursionLimit⟩ hout
  · obtain ⟨x, hx⟩ := chain_of_rooted hrooted (.upTo fuel) s.recursionLimit host
    have hleft := hx s rfl
    have hright := hx s' h.recursionLimit.symm
    unfold Template.render
    rw [run_bind, run_bind, hleft, hright]
    rcases x with halt | _ | ⟨oldest, younger⟩
    · exact ⟨rfl, hout⟩
    · exact ⟨rfl, hout⟩
    · have hrun : Agrees .same host ((Jumps.upTo fuel).run oldest.nodes)
          ((Jumps.upTo fuel).run oldest.nodes) := hj.run rfl
      have hsame : State.Same { s with chain := oldest :: younger }
          { s' with chain := oldest :: younger } :=
        ⟨h.set, h.context, h.globals, hscopes, h.autoescape, rfl, hoverridden, h.depth,
          h.recursionLimit⟩
      exact hrun.same hsame hout

/-- An include with `only` ends in the same way and writes the same text in two states that agree on
what a template sees outside of it, and on what the innermost block overrides; on the chain as well,
unless the template is rooted. The states are those in which the include has found its template and
evaluated its bindings. -/
theorem includes_only_same (fuel : Nat) {target : Target} {base : String}
    {bindings : List (String × Expr)} {ifExists : Bool} {t : Template}
    {values : List (String × Value)} {s s' u u' v v' : State}
    (hfind : target.find? (.upTo fuel) base ifExists host s = (.ok (some t), u))
    (hfind' : target.find? (.upTo fuel) base ifExists host s' = (.ok (some t), u'))
    (hvalues : evalBindings (.upTo fuel) bindings host u = (.ok values, v))
    (hvalues' : evalBindings (.upTo fuel) bindings host u' = (.ok values, v'))
    (houtside : v.SameOutside v')
    (hoverridden : v.blocks.head?.getD [] = v'.blocks.head?.getD [])
    (hchain : v.chain = v'.chain ∨ t.Rooted) (hout : v.out = v'.out) :
    let statement := Statement.includes target base bindings true ifExists
    (statement.exec (.upTo fuel) host s).1 = (statement.exec (.upTo fuel) host s').1 ∧
      (statement.exec (.upTo fuel) host s).2.out = (statement.exec (.upTo fuel) host s').2.out := by
  have hexec {s u v : State}
      (hfind : target.find? (.upTo fuel) base ifExists host s = (.ok (some t), u))
      (hvalues : evalBindings (.upTo fuel) bindings host u = (.ok values, v)) :
      (Statement.includes target base bindings true ifExists).exec (.upTo fuel) host s =
        deeper "include" (isolated values (t.render (.upTo fuel))) host v := by
    unfold Statement.exec
    rw [run_bind, hfind]
    dsimp only
    rw [run_bind, hvalues]
    rfl
  dsimp only
  rw [hexec hfind hvalues, hexec hfind' hvalues']
  unfold deeper
  rw [run_get_bind, run_get_bind, ← houtside.recursionLimit, ← houtside.depth]
  split
  · exact ⟨rfl, hout⟩
  · have hinside : State.SameOutside
        { v with depth := v.depth + 1, scopes := [Table.ofList values, State.baseScope] }
        { v' with depth := v'.depth + 1, scopes := [Table.ofList values, State.baseScope] } :=
      ⟨houtside.set, houtside.context, houtside.globals, houtside.autoescape,
        congrArg (· + 1) houtside.depth, houtside.recursionLimit⟩
    exact render_same hhost fuel hinside rfl hoverridden hchain hout

end Modest

/-- An include of `youngest` with the binding `x`, next to a loop over something else and within a
block of `oldest` that overrides nothing. -/
theorem includes_only_same_nested :
    let host := Host.bare fixedMoment
    let target := Target.linked youngest
    let bindings := [("x", Expr.literal (.int 1))]
    let plain := State.start none [("y", .int 2)] default .empty
    let nested :=
      { plain with
        scopes := [[("x", .nil), ("forloop", .map [])], State.baseScope]
        chain := [oldest]
        blocks := [[], [[.text "A"]]] }
    target.find? (.upTo 3) "base" false host plain = (.ok (some youngest), plain) ∧
      target.find? (.upTo 3) "base" false host nested = (.ok (some youngest), nested) ∧
      evalBindings (.upTo 3) bindings host plain = (.ok [("x", .int 1)], plain) ∧
      evalBindings (.upTo 3) bindings host nested = (.ok [("x", .int 1)], nested) ∧
      youngest.Rooted ∧
      let statement := Statement.includes target "base" bindings true false
      (statement.exec (.upTo 3) host plain).1 = (statement.exec (.upTo 3) host nested).1 ∧
        (statement.exec (.upTo 3) host plain).2.out =
          (statement.exec (.upTo 3) host nested).2.out := by
  intro host target bindings plain nested
  have hrooted : youngest.Rooted := .child rfl (.child rfl (.root rfl))
  have hsame : plain.SameOutside nested := ⟨rfl, rfl, rfl, rfl, rfl, rfl⟩
  have hfind (s : State) : target.find? (.upTo 3) "base" false host s = (.ok (some youngest), s) :=
    rfl
  have hvalues (s : State) : evalBindings (.upTo 3) bindings host s = (.ok [("x", .int 1)], s) :=
    rfl
  exact ⟨hfind plain, hfind nested, hvalues plain, hvalues nested, hrooted,
    includes_only_same (modest_bare fixedMoment) 3 (hfind plain) (hfind nested) (hvalues plain)
      (hvalues nested) hsame rfl (.inr hrooted) rfl⟩

/-- A template that shows, in brackets, what the block around it overrides. -/
def showingSuper : Template where
  name := "bracketed"
  source := ""
  tokens := []
  nodes := [.text "[", showSuper, .text "]"]
  parent := none
  blocks := []
  macros := []
  level := 0
  options := default
  serial := 0

/-- States that agree on what every template may see, and on the scopes and the chain as well, need
not agree on what an include with `only` shows: the block around it shines through. -/
theorem include_only_shows_super :
    ¬∀ (t : Template) (s s' : State), s.SameOutside s' → s.scopes = s'.scopes →
      s.chain = s'.chain → s.out = s'.out →
      let statement := Statement.includes (.linked t) "base" [] true false
      let host := Host.bare fixedMoment
      (statement.exec (.upTo 3) host s).2.out.contents =
        (statement.exec (.upTo 3) host s').2.out.contents := by
  intro h
  let plain := State.start none [] default .empty
  let inBlock := { plain with blocks := [[[.text "A"]]] }
  have hshown := h showingSuper plain inBlock ⟨rfl, rfl, rfl, rfl, rfl, rfl⟩ rfl rfl rfl
  revert hshown
  decide +kernel

end Stencil
