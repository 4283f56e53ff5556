import Stencil.Proofs.Keeping
import Stencil.Proofs.Render.Tree
import Stencil.Render.Exec

/-!
# How many jumps a render needs

More jumps make no difference to a render that ends, and a bound on how many it can need. Where
blocks show each other through `block.Super`, no number is enough.
-/

namespace Stencil

/-!
## Jumps that may be nested so often

However many jumps a render may nest, it upholds the rules. More jumps make no difference once it
ends with as many, and neither does a bound on how often `block.Super` may be nested that is not
below the number of jumps.
-/

section Fuel

open Render

/-- The jumps of a render in which at most `fuel` of them may be nested, and which fails where more
than `most` renderings of `block.Super` are nested; `left` are left. -/
def Jumps.bounded (most : Nat) : (fuel left : Nat) → Jumps
  | 0, _ => .upTo 0
  | fuel + 1, left =>
    ⟨fun nodes => execNodes (bounded most fuel left) nodes,
      fun nodes =>
        match left with
        | 0 => Render.fail (.tooDeep most "block.Super")
        | left + 1 => execNodes (bounded most fuel left) nodes,
      fun e => e.eval (bounded most fuel left)⟩

/-- A bound that is not below the number of jumps changes nothing. -/
theorem bounded_eq_upTo (most : Nat) {fuel left : Nat} (h : fuel ≤ left) :
    Jumps.bounded most fuel left = .upTo fuel := by
  induction fuel generalizing left with
  | zero => rfl
  | succ fuel ih =>
    obtain ⟨left, rfl⟩ : ∃ n, left = n + 1 := ⟨left - 1, by omega⟩
    unfold Jumps.bounded Jumps.upTo
    dsimp only
    rw [ih (by omega : fuel ≤ left), ih (by omega : fuel ≤ left + 1)]

/-- The budget that allows everything. -/
def Budget.any : Budget := ⟨fun _ => True, fun _ => True, fun _ _ _ _ => True⟩

theorem falls_any (g : Realm) : Budget.any.Falls g :=
  ⟨fun _ => trivial, fun _ _ => trivial, fun _ => trivial, fun _ _ => trivial⟩

variable {g : Realm} {host : Host}

theorem upholds_spent {α : Type} {d : Nat} {c : List Template} {A : α → Prop}
    {r : Render α} (hhalt : g.halt .spent)
    (hparting : g.parting .spent ∨ r = throw .spent) :
    Upholds g host d c (throw .spent) r A := by
  intro s hs
  refine ⟨hs, hhalt, ?_⟩
  rcases hparting with hparting | rfl
  · exact .inr ⟨_, rfl, hparting⟩
  · exact .inl rfl

/-- A render upholds the rules with any number of jumps, and does the same with more unless it is
exhausted. -/
theorem uphold_bounded (hg : g.Lawful) (hhalt : g.halt .spent) (more : Nat)
    (hparting : g.parting .spent ∨ more = 0) (most fuel left : Nat) :
    (Jumps.bounded most fuel left).Uphold g host .any (.bounded most (fuel + more) left) := by
  have hb := falls_any g
  induction fuel generalizing left with
  | zero =>
    have hzero : g.parting .spent ∨ Jumps.bounded most (0 + more) left = .upTo 0 := by
      refine hparting.imp_right fun hmore => ?_
      subst hmore
      rfl
    constructor
    · exact fun _ _ => upholds_spent hhalt (hzero.imp_right fun h => by rw [h]; rfl)
    · exact fun _ _ => upholds_spent hhalt (hzero.imp_right fun h => by rw [h]; rfl)
    · exact fun _ _ _ _ _ => upholds_spent hhalt (hzero.imp_right fun h => by rw [h]; rfl)
    · exact fun _ _ => upholds_spent hhalt (hzero.imp_right fun h => by rw [h]; rfl)
  | succ fuel ih =>
    have hnodes (left : Nat) {d c blocks} {body : Body}
        (hbody : Body.Obeys g.rules blocks g.rules.nesting body) :
        Upholds g host d c (execNodes (.bounded most fuel left) body)
          (execNodes (.bounded most (fuel + more) left) body) fun _ => True :=
      upholds_execNodes hg hb (ih left) trivial body hbody
    rw [Nat.add_right_comm]
    refine ⟨fun _ he => upholds_eval hg hb (ih left) trivial _ he, fun _ hbody => hnodes left hbody,
      fun _ _ _ _ heq => upholds_of_sound fun s hs => ?_, fun _ hbody => ?_⟩
    · obtain ⟨blocks, hbody⟩ := obeys_bodiesOf hs.ancestors _ (heq ▸ List.mem_cons_self ..)
      exact hnodes left hbody
    · cases left with
      | zero => exact upholds_fail hg _
      | succ left => exact hnodes left hbody

theorem uphold_upTo (hg : g.Lawful) (hhalt : g.halt .spent) (more : Nat)
    (hparting : g.parting .spent ∨ more = 0) (fuel : Nat) :
    (Jumps.upTo fuel).Uphold g host .any (.upTo (fuel + more)) := by
  have h : (Jumps.bounded 0 fuel (fuel + more)).Uphold g host .any
      (.bounded 0 (fuel + more) (fuel + more)) := uphold_bounded hg hhalt more hparting ..
  rwa [bounded_eq_upTo 0 (by omega), bounded_eq_upTo 0 (by omega)] at h

end Fuel

/-!
## Renders that need only so many jumps

Each jump of a render goes down. Includes and macro calls get closer to the greatest depth, and
renderings of `block.Super` use up the bound on them. A block shows the body of a younger template
of the chain, or else a body inside of the one it stands in. So the greatest depth, that bound, the
length of the chain and the nesting of bodies together say how many jumps there can be.
-/

section Bounds

open Render

/-! ### Costs -/

namespace Realm

variable (g : Realm)

/-- How many jumps lead from block to block of a chain at most. -/
def stride : Nat := (g.chainLimit + 1) * (g.rules.nesting + 1)

/-- How many jumps are needed at a depth for the includes and macro calls that may still be nested,
and for the `left` renderings of `block.Super`. -/
def cost (left d : Nat) : Nat := (left + (g.limit - d)) * g.stride

theorem stride_eq : g.stride = g.chainLimit * (g.rules.nesting + 1) + g.rules.nesting + 1 :=
  Nat.succ_mul ..

theorem cost_deeper {left d : Nat} (h : d < g.limit) :
    g.cost left d = g.cost left (d + 1) + g.stride := by
  unfold cost
  rw [← Nat.succ_mul]
  congr 1
  omega

theorem cost_overridden (left d : Nat) : g.cost (left + 1) d = g.cost left d + g.stride := by
  unfold cost
  rw [← Nat.succ_mul]
  congr 1
  omega

end Realm

/-- Nodes belong to the template that so many templates of a chain are younger than, or to none of
the chain. -/
def Placed (c : List Template) (blocks : Table Body) (level : Nat) : Prop :=
  level ≤ c.length ∧ ∀ t, c.reverse[level]? = some t → t.blocks = blocks

theorem placed_length (c : List Template) (blocks : Table Body) : Placed c blocks c.length := by
  refine ⟨Nat.le_refl _, fun t ht => ?_⟩
  rw [List.getElem?_eq_none (Nat.le_of_eq List.length_reverse)] at ht
  cases ht

/-- The budget for `fuel` jumps with `left` renderings of `block.Super`. -/
def Budget.within (g : Realm) (left fuel : Nat) : Budget where
  eval d := g.cost left d < fuel
  run d := g.cost left d + g.stride < fuel
  exec d c blocks room :=
    ∃ level, Placed c blocks level ∧ g.cost left d + level * (g.rules.nesting + 1) + room < fuel

variable {g : Realm} {host : Host} {left fuel d : Nat} {c : List Template} {blocks : Table Body}

theorem falls_within (g : Realm) (left fuel : Nat) : (Budget.within g left fuel).Falls g where
  eval_of_run h := Nat.lt_of_le_of_lt (Nat.le_add_right _ _) h
  deeper {d} h hlimit := by
    have hcost : g.cost left d = _ := g.cost_deeper hlimit
    change g.cost left d < fuel at h
    change g.cost left (d + 1) + g.stride < fuel
    omega
  eval_of_exec := fun ⟨level, _, h⟩ => by
    change _ < fuel
    omega
  inner := fun hinner ⟨level, hplaced, h⟩ => ⟨level, hplaced, by omega⟩

/-- Any body may be executed in any chain after a jump. -/
theorem exec_of_run (hlength : c.length ≤ g.chainLimit) (h : g.cost left d + g.stride < fuel + 1) :
    (Budget.within g left fuel).exec d c blocks g.rules.nesting := by
  have hlevel : c.length * (g.rules.nesting + 1) ≤ g.chainLimit * (g.rules.nesting + 1) :=
    Nat.mul_le_mul_right _ hlength
  have hstride := g.stride_eq
  exact ⟨c.length, placed_length c blocks, by omega⟩

/-- The youngest body of a block is that of the first template that has one. -/
theorem exists_younger {name : String} {body : Body} {overridden : List Body}
    (h : bodiesOf name c = body :: overridden) :
    ∃ younger t older, c.reverse = younger ++ t :: older ∧ t.block? name = some body ∧
      ∀ t ∈ younger, t.block? name = none := by
  unfold bodiesOf at h
  rw [← List.filterMap_reverse] at h
  obtain ⟨younger, t, older, heq, hyounger, ht, -⟩ := List.filterMap_eq_cons_iff.mp h
  exact ⟨younger, t, older, heq, ht, hyounger⟩

/-- The body that a block shows needs fewer jumps than the nodes that it stands in. -/
theorem exec_block {inner room : Nat} {name : String} {own body : Body} {overridden : List Body}
    (hexec : (Budget.within g left (fuel + 1)).exec d c blocks room) (hroom : inner < room)
    (hown : blocks.lookup name = some own) (hbody : Body.Obeys g.rules blocks inner own)
    (hancestors : ∀ t ∈ c, t.Obeys g.rules) (hbodies : bodiesOf name c = body :: overridden) :
    ∃ blocks' room', Body.Obeys g.rules blocks' room' body ∧
      (Budget.within g left fuel).exec d c blocks' room' := by
  obtain ⟨level, ⟨hlevel, hplaced⟩, hfuel⟩ := hexec
  obtain ⟨younger, t, older, hc, ht, hyounger⟩ := exists_younger hbodies
  have hget : c.reverse[younger.length]? = some t := by
    rw [hc, List.getElem?_append_right (Nat.le_refl _), Nat.sub_self]
    rfl
  have hlength : c.length = younger.length + older.length + 1 := by
    have h := congrArg List.length hc
    rw [List.length_reverse, List.length_append, List.length_cons] at h
    omega
  rcases Nat.lt_trichotomy younger.length level with hlt | heq | hgt
  · -- A younger template has the block, and any of its bodies may be executed.
    have hmem : t ∈ c := List.mem_reverse.mp (hc ▸ List.mem_append_right _ (List.mem_cons_self ..))
    have hless : (younger.length + 1) * (g.rules.nesting + 1) ≤ level * (g.rules.nesting + 1) :=
      Nat.mul_le_mul_right _ hlt
    rw [Nat.succ_mul] at hless
    cases hancestors t hmem with
    | intro _ _ _ _ hobeys _ =>
      refine ⟨t.blocks, g.rules.nesting, hobeys _ (Table.mem_of_get? ht), younger.length, ?_, ?_⟩
      · refine ⟨by omega, fun t' ht' => ?_⟩
        rw [hget] at ht'
        cases ht'
        rfl
      · omega
  · -- The block is not overridden, so its body is the one that stands in the nodes.
    subst heq
    have hblocks : t.blocks = blocks := hplaced t hget
    have hsame : body = own := by
      have ht : t.blocks.lookup name = some body := ht
      rw [hblocks, hown] at ht
      exact (Option.some.inj ht).symm
    exact ⟨blocks, inner, hsame ▸ hbody, younger.length, ⟨hlevel, hplaced⟩, by omega⟩
  · -- A template cannot be younger than the first one that has the block.
    have hgetLevel : c.reverse[level]? = some younger[level] := by
      rw [hc, List.getElem?_append_left hgt]
      exact List.getElem?_eq_getElem hgt
    have hnone := hyounger _ (List.getElem_mem hgt)
    have hblocks := hplaced _ hgetLevel
    unfold Template.block? at hnone
    rw [hblocks, hown] at hnone
    cases hnone

/-! ### Jumps -/

/-- With as many jumps as the budget says, a render upholds the rules and is not exhausted. -/
theorem uphold_within (hg : g.Lawful)
    (hblock : ∀ blocks name body, g.rules.block blocks name body → blocks.lookup name = some body)
    (most fuel left : Nat) :
    (Jumps.bounded most fuel left).Uphold g host (.within g left fuel)
      (.bounded most fuel left) := by
  induction fuel generalizing left with
  | zero =>
    exact ⟨fun h => absurd h (Nat.not_lt_zero _), fun h => absurd h (Nat.not_lt_zero _),
      fun ⟨_, _, h⟩ => absurd h (Nat.not_lt_zero _), fun h => absurd h (Nat.not_lt_zero _)⟩
  | succ fuel ih =>
    have hnodes (left : Nat) {d c blocks} {body : Body}
        (hbody : Body.Obeys g.rules blocks g.rules.nesting body)
        (hfuel : g.cost left d + g.stride < fuel + 1) :
        Upholds g host d c (execNodes (.bounded most fuel left) body)
          (execNodes (.bounded most fuel left) body) fun _ => True :=
      upholds_of_sound fun _ hs =>
        upholds_execNodes hg (falls_within g left fuel) (ih left) (exec_of_run hs.length hfuel)
          body hbody
    have hpositive := g.stride_eq
    refine ⟨fun {d c e} hfuel he => ?_, fun hfuel hbody => hnodes left hbody hfuel,
      fun hexec hroom hown hbody hbodies => upholds_of_sound fun s hs => ?_,
      fun {d c blocks body} hfuel hbody => ?_⟩
    · change g.cost left d + g.stride < fuel + 1 at hfuel
      have heval : (Budget.within g left fuel).eval d := by
        change g.cost left d < fuel
        omega
      exact upholds_eval hg (falls_within g left fuel) (ih left) heval e he
    · obtain ⟨blocks, room, hobeys, hexec⟩ :=
        exec_block hexec hroom (hblock _ _ _ hown) hbody hs.ancestors hbodies
      exact upholds_execNodes hg (falls_within g left fuel) (ih left) hexec _ hobeys
    · cases left with
      | zero => exact upholds_fail hg _
      | succ left =>
        have hcost := g.cost_overridden left d
        change g.cost (left + 1) d < fuel + 1 at hfuel
        exact hnodes left hbody (by omega)

end Bounds

/-!
## Blocks that show each other

A block that shows another one jumps to its youngest body, and `block.Super` jumps to the body that
the current one overrides. If the youngest body of a block shows another block, whose youngest body
shows `block.Super`, and the body below that one shows the first block again, no number of jumps is
enough.
-/

section Shows

/-- In the state `s`, the render needs more jumps than it may nest. -/
def Render.Exhausts {α : Type} (host : Host) (s : State) (r : Render α) : Prop :=
  (r host s).1 = .error .spent

/-- A body that shows the block `name` first. -/
def Body.shows (name : String) : Body → Bool
  | .tag _ _ (.block shown _) :: _ => shown == name
  | _ => false

/-- A body that shows `block.Super` first. -/
def Body.showsSuper : Body → Bool
  | .output _ (.path "block" [.attr "Super"] _) :: _ => true
  | _ => false

/-- In the chain, the blocks `a` and `b` show each other. -/
def circular (a b : String) (chain : List Template) : Bool :=
  match bodiesOf a chain, bodiesOf b chain with
  | body :: _, youngest :: overridden :: _ =>
    Body.shows b body && Body.showsSuper youngest && Body.shows a overridden
  | _, _ => false

/-- The template extends one that extends nothing and shows the block `b` first, and the blocks `a`
and `b` of the two show each other. -/
def Template.circular (a b : String) (t : Template) : Bool :=
  match t.parent with
  | some (.linked base) =>
    base.parent.isNone && base.name != t.name && Body.shows b base.nodes &&
      Stencil.circular a b [base, t]
  | _ => false

open Render

variable {host : Host} {s : State} {α β : Type} {r : Render α}

/-! ### Rules -/

theorem exhausts_bind (f : α → Render β) (h : Exhausts host s r) : Exhausts host s (r >>= f) := by
  unfold Exhausts at h ⊢
  rw [run_bind, h]

theorem exhausts_get_bind {f : State → Render α} (h : Exhausts host s (f s)) :
    Exhausts host s (get >>= f) := h

theorem exhausts_located (p : Position) (h : Exhausts host s r) :
    Exhausts host s (located p r) := by
  unfold Exhausts located at *
  rcases hresult : r host s with ⟨_ | _, _⟩ <;> rw [hresult] at h <;> cases h
  rfl

theorem exhausts_capture {r : Render Unit} (h : Exhausts host { s with out := .empty } r) :
    Exhausts host s (capture r) := by
  unfold Exhausts capture at *
  rcases hresult : r host { s with out := .empty } with ⟨_ | _, _⟩ <;> rw [hresult] at h <;> cases h
  rfl

theorem exhausts_withBlock {overridden : List Body}
    (h : Exhausts host { s with blocks := overridden :: s.blocks } r) :
    Exhausts host s (withBlock overridden r) := h

/-! ### Blocks -/

section Blocks

variable {j : Jumps} {nodes body : Body} {overridden : List Body} {name : String}

/-- Where a block is shown, its youngest body is run. -/
theorem exhausts_shows (hshows : nodes.shows name = true)
    (hbodies : bodiesOf name s.chain = body :: overridden)
    (h : Exhausts host { s with blocks := overridden :: s.blocks } (j.run body)) :
    Exhausts host s (execNodes j nodes) := by
  unfold Body.shows at hshows
  split at hshows
  · rename_i tag p shown own nodes
    cases eq_of_beq hshows
    have hblock : Exhausts host s (renderBlock j name (execNodes j own)) := by
      refine exhausts_get_bind ?_
      rw [hbodies]
      exact exhausts_withBlock h
    exact exhausts_bind _ (exhausts_located p hblock)
  · cases hshows

/-- Where `block.Super` is shown, the next body is run. -/
theorem exhausts_showsSuper (hshows : nodes.showsSuper = true)
    (hscopes : s.scopes = [State.baseScope]) {frames : List (List Body)}
    (hblocks : s.blocks = (body :: overridden) :: frames)
    (h : Exhausts host { s with blocks := overridden :: s.blocks, out := .empty }
      (j.runOverridden body)) :
    Exhausts host s (execNodes j nodes) := by
  unfold Body.showsSuper at hshows
  split at hshows
  · rename_i p q nodes
    have hlookup : s.lookup "block" = .map [("Super", .func .super)] := by
      unfold State.lookup
      rw [hscopes]
      rfl
    have hsuper : Exhausts host s (renderSuper j) := by
      refine exhausts_get_bind ?_
      rw [hblocks]
      exact exhausts_bind _ (exhausts_withBlock (exhausts_capture (hblocks ▸ h)))
    have hpath : Exhausts host s (evalPath j (s.lookup "block") [.attr "Super"]) := by
      rw [hlookup]
      exact hsuper
    exact exhausts_bind _ (exhausts_located p (exhausts_bind _ (exhausts_located q hpath)))
  · cases hshows

end Blocks

section Circle

variable {a b : String} {chain : List Template} (hcircular : circular a b chain = true)
include hcircular

/-- The bodies by which two blocks show each other. -/
theorem exists_of_circular : ∃ body below youngest overridden rest,
    bodiesOf a chain = body :: below ∧ bodiesOf b chain = youngest :: overridden :: rest ∧
      Body.shows b body ∧ Body.showsSuper youngest ∧ Body.shows a overridden := by
  unfold circular at hcircular
  split at hcircular
  · rename_i body below youngest overridden rest ha hb
    rw [Bool.and_eq_true, Bool.and_eq_true] at hcircular
    exact ⟨body, below, youngest, overridden, rest, ha, hb, hcircular.1.1, hcircular.1.2,
      hcircular.2⟩
  · cases hcircular

/-- However many jumps may be nested, blocks that show each other need more. -/
theorem exhausts_circular (fuel : Nat) {nodes : Body} (hnodes : nodes.shows b = true)
    (hchain : s.chain = chain) (hscopes : s.scopes = [State.baseScope]) :
    Exhausts host s (execNodes (.upTo fuel) nodes) := by
  obtain ⟨body, below, youngest, overridden, rest, ha, hb, hbody, hyoungest, hoverridden⟩ :=
    exists_of_circular hcircular
  -- One turn of the circle takes three jumps.
  induction fuel using Nat.strongRecOn generalizing s nodes with
  | ind fuel ih =>
    refine exhausts_shows hnodes (hchain ▸ hb) ?_
    match fuel, ih with
    | 0, _ => rfl
    | 1, _ => exact exhausts_showsSuper hyoungest hscopes rfl rfl
    | 2, _ =>
      refine exhausts_showsSuper hyoungest hscopes rfl ?_
      exact exhausts_shows hoverridden (hchain ▸ ha) rfl
    | fuel + 3, ih =>
      refine exhausts_showsSuper hyoungest hscopes rfl ?_
      refine exhausts_shows hoverridden (hchain ▸ ha) ?_
      exact ih fuel (by omega) hbody hchain hscopes

end Circle

/-! ### Templates -/

/-- A template and its parent, which extends nothing, are a chain. -/
theorem chain_of_linked {j : Jumps} {t base : Template} (hparent : t.parent = some (.linked base))
    (hbase : base.parent = none) (hname : base.name ≠ t.name) (hlimit : 2 ≤ s.recursionLimit) :
    t.chain j host s = (.ok [base, t], s) := by
  obtain ⟨room, hroom⟩ : ∃ room, s.recursionLimit - 1 = room + 1 :=
    ⟨s.recursionLimit - 2, by omega⟩
  have hfirst : t.parent? j host s = (.ok (some base), s) := by
    unfold Template.parent?
    rw [hparent]
    rfl
  have hlast : base.parent? j host s = (.ok none, s) := by
    unfold Template.parent?
    rw [hbase]
    rfl
  have hnew : ([t].any fun t => t.name == base.name) = false := by
    rw [List.any_cons, List.any_nil, Bool.or_false]
    exact beq_eq_false_iff_ne.mpr hname.symm
  change ancestry j t s.recursionLimit (s.recursionLimit - 1) t [t] host s = _
  rw [hroom]
  unfold ancestry
  rw [run_bind, hfirst]
  dsimp only
  rw [hnew]
  change ancestry j t s.recursionLimit room base [base, t] host s = _
  unfold ancestry
  rw [run_bind, hlast]
  rfl

/-- No number of jumps is enough for a template whose parent shows blocks that show each other. -/
theorem exhausts_render {a b : String} {t : Template} (ht : t.circular a b = true)
    (hlimit : 2 ≤ s.recursionLimit) (hscopes : s.scopes = [State.baseScope]) (fuel : Nat) :
    Exhausts host s (t.render (.upTo fuel)) := by
  unfold Template.circular at ht
  split at ht
  · rename_i base hparent
    simp only [Bool.and_eq_true, Option.isNone_iff_eq_none, bne_iff_ne] at ht
    obtain ⟨⟨⟨hbase, hname⟩, hnodes⟩, hcircular⟩ := ht
    unfold Exhausts Template.render
    rw [run_bind, chain_of_linked hparent hbase hname hlimit]
    change Exhausts host { s with chain := [base, t] } ((Jumps.upTo fuel).run base.nodes)
    cases fuel with
    | zero => rfl
    | succ fuel => exact exhausts_circular hcircular fuel hnodes rfl hscopes
  · cases ht

end Shows

end Stencil
