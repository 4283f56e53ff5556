import Mathlib.Data.List.Chain
import Stencil.Proofs.Render.Points

/-!
# Blocks and what they override

A block shows the body that the youngest template of the chain gives it, and `block.Super` in a body
shows the body that the nearest older template gives the same block. The bodies that are left to
show are kept on a stack, on which nested blocks and `block.Super` itself push; so the right one has
to lie on top at every point of a body.
-/

namespace Stencil

open Render

/-- The bodies that the chain gives to a block, the oldest first. -/
def State.bodies (s : State) (name : String) : List Body := s.chain.filterMap (·.block? name)

theorem bodiesOf_chain (s : State) (name : String) :
    bodiesOf name s.chain = (s.bodies name).reverse := rfl

/-- In some run the body with number `k` of the block `name` starts in the state `s`, where jumps
may nest to the depth `fuel`. -/
inductive Showing (host : Host) (name : String) : (fuel k : Nat) → Body → State → Prop where
  /-- A block statement is executed. -/
  | block {fuel body overridden} {s : State} (h : bodiesOf name s.chain = body :: overridden) :
      Showing host name fuel overridden.length body { s with blocks := overridden :: s.blocks }
  /-- At some point of a body `block.Super` is evaluated. -/
  | super {fuel k body s task s' below rest frames}
      (shown : Showing host name (fuel + 1) (k + 1) body s)
      (reached : Task.Reaches host (.upTo (fuel + 1)) (.nodes body) s task s')
      (h : s'.blocks = (below :: rest) :: frames) :
      Showing host name fuel k below { s' with blocks := rest :: s'.blocks }

/-! ## The chain -/

theorem ancestry_root {host : Host} {j : Jumps} {youngest oldest : Template} {limit : Nat}
    {chain : List Template} {s : State} (room : Nat) (h : oldest.parent = none) :
    ancestry j youngest limit room oldest chain host s = (.ok chain, s) := by
  unfold ancestry Template.parent?
  rw [h]
  rfl

theorem ancestry_linked {host : Host} {j : Jumps} {youngest oldest parent : Template} {limit : Nat}
    {chain : List Template} {s : State} (room : Nat) (h : oldest.parent = some (.linked parent))
    (hnew : (chain.any fun t => t.name == parent.name) = false) :
    ancestry j youngest limit (room + 1) oldest chain host s =
      ancestry j youngest limit room parent (parent :: chain) host s := by
  rw [ancestry, Template.parent?, h]
  change (if chain.any fun t => t.name == parent.name then
    fail (.cyclicInheritance oldest.name parent.name)
    else ancestry j youngest limit room parent (parent :: chain)) host s = _
  rw [hnew]
  rfl

section Frame

variable {host : Host} (hhost : host.Balanced)
include hhost

/-- A body that is shown is the one that its number says, and right below it lie the older ones. -/
theorem Showing.frame {name : String} {fuel k : Nat} {body : Body} {s : State}
    (h : Showing host name fuel k body s) :
    (s.bodies name)[k]? = some body ∧
      ∃ frames, s.blocks = ((s.bodies name).take k).reverse :: frames := by
  induction h with
  | @block fuel body overridden s h =>
    have hbodies : s.bodies name = overridden.reverse ++ [body] := by
      rw [← List.reverse_reverse (s.bodies name), ← bodiesOf_chain, h, List.reverse_cons]
    change (s.bodies name)[overridden.length]? = some body ∧
      ∃ frames, overridden :: s.blocks = ((s.bodies name).take overridden.length).reverse :: frames
    rw [hbodies]
    exact ⟨by simp, s.blocks, by simp⟩
  | @super fuel k body s task s' below rest frames shown reached h ih =>
    obtain ⟨hbody, outer, hblocks⟩ := ih
    have hsame := sameFrames_of_reaches hhost (keeps_upTo (respected_balanced hhost) _) reached
    have hchain : s'.bodies name = s.bodies name := congrArg (List.filterMap _) hsame.chain
    -- The frame on top holds what the body overrides, and the body that is next is its head.
    have htop : below :: rest = ((s.bodies name).take (k + 1)).reverse := by
      have hframes := (h.symm.trans hsame.blocks).trans hblocks
      exact (List.cons.inj hframes).1
    have hlt : k < (s.bodies name).length :=
      Nat.lt_of_succ_lt (List.getElem?_eq_some_iff.1 hbody).1
    rw [List.take_add_one, List.getElem?_eq_getElem hlt, Option.toList_some,
      List.reverse_append, List.reverse_singleton, List.singleton_append] at htop
    obtain ⟨rfl, rfl⟩ := List.cons.inj htop
    change (s'.bodies name)[k]? = _ ∧
      ∃ frames, _ :: s'.blocks = ((s'.bodies name).take k).reverse :: _
    rw [hchain]
    exact ⟨List.getElem?_eq_getElem hlt, s'.blocks, rfl⟩

end Frame

/-! ## `block.Super` -/

/-- A template that shows the block `a` and gives it a body. -/
def showing (name : String) (body : Body) (parent : Option Parent) (level : Nat) : Template where
  name := name
  source := ""
  tokens := []
  nodes := [.tag "block" default (.block "a" body)]
  parent := parent
  blocks := [("a", body)]
  macros := []
  level := level
  options := default
  serial := level

/-- A tag that shows what the block overrides. -/
def showSuper : Node := .output default (.path "block" [.attr "Super"] default)

/-- A template and two descendants, whose bodies show what they override. -/
def oldest : Template := showing "oldest" [.text "A"] none 0

@[inherit_doc oldest]
def middle : Template := showing "middle" [.text "B", showSuper] (some (.linked oldest)) 1

@[inherit_doc oldest]
def youngest : Template := showing "youngest" [.text "C", showSuper] (some (.linked middle)) 2

end Stencil
