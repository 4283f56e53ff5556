import Stencil.Proofs.Render.Sparing

/-!
# The loops around a point

Loops stand inside each other to any depth, with other tags, blocks, includes and calls between. At
every point of a render the variable `forloop` tells of the loops around it: it is the record of the
innermost one, which holds the record of the next one out (`Inside.situated`).
-/

namespace Stencil

open Render

/-- The number of the visit that a loop is at, from 1, and how many visits it makes; the innermost
loop comes first. -/
abbrev Rounds := List (Nat × Nat)

/-- What `forloop` is bound to inside the loops. -/
def Rounds.record : Rounds → Value
  | [] => .nil
  | (k, n) :: outer => Loop.counters (k - 1) n (record outer)

/-- The loops around a task that another one comes to: the body of a loop is inside one more. -/
def Rounds.after (rounds : Rounds) : Task → Task → Rounds
  | .visits _ _ _ total _ i _, .nodes _ => (i + 1, total) :: rounds
  | _, _ => rounds

/-- Neither the scopes nor the data know the name. -/
structure State.Free (x : String) (s : State) : Prop where
  scopes : ∀ scope ∈ s.scopes, scope.get? x = none
  context : s.context.get? x = none
  globals : s.globals.get? x = none

/-- The state in which the chain of an included template is found. -/
def State.including (s : State) (values : List (String × Value)) (only : Bool) : State :=
  { s with
    scopes := if only then [Table.ofList values, baseScope] else Table.ofList values :: s.scopes
    depth := s.depth + 1 }

/-- In some run that starts outside of loops a task starts inside the loops with the given rounds,
where jumps may nest to the depth `fuel`. What is run does not bind `forloop`, apart from the
loops. -/
inductive Inside (host : Host) : (fuel : Nat) → Rounds → Task → State → Prop where
  | start {fuel nodes} {s : State} (spares : Body.Spares "forloop" nodes)
      (spared : s.Spared "forloop") (free : s.Free "forloop") : Inside host fuel [] (.nodes nodes) s
  | turn {fuel rounds task s task' s'} (inside : Inside host fuel rounds task s)
      (starts : Task.Starts host (.upTo fuel) task s task' s') :
      Inside host fuel (rounds.after task task') task' s'
  /-- A block that no template of the chain gives a body. -/
  | own {fuel rounds name body} {s : State}
      (inside : Inside host fuel rounds (.statement (.block name body)) s)
      (none : bodiesOf name s.chain = []) :
      Inside host fuel rounds (.nodes body) { s with blocks := [] :: s.blocks }
  /-- The youngest body of a block. -/
  | youngest {fuel rounds name own body overridden} {s : State}
      (inside : Inside host (fuel + 1) rounds (.statement (.block name own)) s)
      (some : bodiesOf name s.chain = body :: overridden) :
      Inside host fuel rounds (.nodes body) { s with blocks := overridden :: s.blocks }
  /-- A body that `block.Super` shows at some point. -/
  | overridden {fuel rounds task body rest frames} {s : State}
      (inside : Inside host (fuel + 1) rounds task s)
      (frame : s.blocks = (body :: rest) :: frames) :
      Inside host fuel rounds (.nodes body) { s with blocks := rest :: s.blocks, out := .empty }
  /-- The body of a macro that is called at some point. -/
  | called {fuel rounds task args values s₁} {m : Macro} {s : State}
      (inside : Inside host (fuel + 1) rounds task s)
      (params : ∀ p ∈ m.params, p.1 ≠ "forloop") (spares : Body.Spares "forloop" m.body)
      (bound : bindParameters (.upTo (fuel + 1)) m.params args host
        { s with depth := s.depth + 1 } =
        (.ok values, s₁)) :
      Inside host fuel rounds (.nodes m.body)
        { s₁ with scopes := Table.ofList values :: s₁.scopes, out := .empty }
  /-- An included template, which sees the loops around the include unless it is shut off from
  them. -/
  | included {fuel rounds target base bindings only ifExists t s₁ values s₂ root younger s₃}
    {s : State}
      (inside : Inside host (fuel + 1) rounds
        (.statement (.includes target base bindings only ifExists)) s)
      (found : target.find? (.upTo (fuel + 1)) base ifExists host s = (.ok (some t), s₁))
      (bound : evalBindings (.upTo (fuel + 1)) bindings host s₁ = (.ok values, s₂))
      (chain : t.chain (.upTo (fuel + 1)) host (s₂.including values only) =
        (.ok (root :: younger), s₃))
      (spares : Body.Spares "forloop" root.nodes)
      (blocks : ∀ t ∈ root :: younger, t.BlocksSpare "forloop") :
      Inside host fuel (if only then [] else rounds) (.nodes root.nodes)
        { s₃ with chain := root :: younger }

/-! ### Tasks -/

/-- The bodies in the task, and the variables of the loop that it goes on with, do not bind the
name. -/
def Task.Spares (x : String) : Task → Prop
  | .nodes ns => Body.Spares x ns
  | .statement st => st.Spares x
  | .branches bodies other => (∀ b ∈ bodies, Body.Spares x b.2) ∧ ∀ body ∈ other, Body.Spares x body
  | .visits first second _ _ body _ _ =>
    first ≠ x ∧ (∀ name ∈ second, name ≠ x) ∧ Body.Spares x body
  | .steps rest => ∀ step ∈ rest, step.Spares x
  | _ => True

/-- What a loop that the task goes on with keeps: the record of the loops around it, and how many
visits there are in all. -/
def Task.Counts (rounds : Rounds) : Task → Prop
  | .visits _ _ parent total _ i rest => parent = rounds.record ∧ i + rest.length = total
  | _ => True

/-! ### States -/

/-- The name has the same value in both states if no block binds it, and the data and what blocks
may show are the same. -/
structure State.Sees (x : String) (s s' : State) : Prop extends s.SameFrames s' where
  context : s'.context = s.context
  globals : s'.globals = s.globals
  lookup : s.Spared x → s'.lookup x = s.lookup x

namespace State

variable {host : Host} {x : String} {s t u : State}

theorem Spared.of_sameFrames (hs : s.Spared x) (h : s.SameFrames t) : t.Spared x where
  chain := h.chain ▸ hs.chain
  blocks := h.blocks ▸ hs.blocks

/-- A scope that does not know a name hides nothing. -/
theorem lookup_scope {scope : Bindings} (h : scope.get? x = none) (s : State) :
    ({ s with scopes := scope :: s.scopes }).lookup x = s.lookup x := by
  unfold lookup
  rw [List.findSome?_cons, h]

theorem Free.lookup_eq (h : s.Free x) : s.lookup x = .nil := by
  have hscopes : s.scopes.findSome? (·.get? x) = none := List.findSome?_eq_none_iff.mpr h.scopes
  unfold lookup
  rw [hscopes, h.context, h.globals]
  rfl

namespace Sees

theorem trans (hst : s.Sees x t) (htu : t.Sees x u) : s.Sees x u where
  toSameFrames := hst.toSameFrames.trans htu.toSameFrames
  context := htu.context.trans hst.context
  globals := htu.globals.trans hst.globals
  lookup hs := (htu.lookup (hs.of_sameFrames hst.toSameFrames)).trans (hst.lookup hs)

theorem of_leaves (h : s.Leaves x t) : s.Sees x t where
  chain := h.balanced.chain
  blocks := h.balanced.blocks
  context := h.balanced.context
  globals := h.balanced.globals
  lookup hs := h.lookup_eq hs

theorem of_run {α : Type} {r : Render α} (hr : Keeps host (State.Leaves x) r)
    {result : Except Halt α} (h : r host s = (result, t)) : s.Sees x t := by
  have hs := hr s
  rw [h] at hs
  exact of_leaves hs

/-- Bindings of other names hide nothing. -/
theorem push (h : s.Sees x t) {bindings : List (String × Value)}
    (hnames : ∀ b ∈ bindings, b.1 ≠ x) :
    s.Sees x { t with scopes := Table.ofList bindings :: t.scopes } :=
  { h with
    lookup := fun hs => (lookup_scope (Table.get?_ofList_of_forall_ne hnames) t).trans
      (h.lookup hs) }

end Sees

end State

/-! ### Bindings -/

section Bindings

variable {host : Host} {j : Jumps} {x : String} {s s' : State}

theorem map_fst_of_evalBindings {bindings : List (String × Expr)} {values : List (String × Value)}
    (h : evalBindings j bindings host s = (.ok values, s')) :
    values.map (·.1) = bindings.map (·.1) := by
  induction bindings generalizing s values with
  | nil =>
    cases h
    rfl
  | cons b bindings ih =>
    unfold evalBindings at h
    obtain ⟨v, t, -, h⟩ := exists_of_run_bind h
    obtain ⟨rest, t', hrest, h⟩ := exists_of_run_bind h
    cases h
    exact congrArg (b.1 :: ·) (ih hrest)

theorem map_fst_of_bindParameters {params : List (String × Option Expr)} {args : List Value}
    {values : List (String × Value)}
    (h : bindParameters j params args host s = (.ok values, s')) :
    values.map (·.1) = params.map (·.1) := by
  induction params, args using bindParameters.induct generalizing s values with
  | case1 =>
    cases h
    rfl
  | case2 name default params v args ih =>
    unfold bindParameters at h
    obtain ⟨rest, t, hrest, h⟩ := exists_of_run_bind h
    cases h
    exact congrArg (name :: ·) (ih hrest)
  | case3 name params ih =>
    unfold bindParameters at h
    obtain ⟨rest, t, hrest, h⟩ := exists_of_run_bind h
    cases h
    exact congrArg (name :: ·) (ih hrest)
  | case4 name e params ih =>
    unfold bindParameters at h
    obtain ⟨v, t, -, h⟩ := exists_of_run_bind h
    obtain ⟨rest, t', hrest, h⟩ := exists_of_run_bind h
    cases h
    exact congrArg (name :: ·) (ih hrest)

/-- Values for names have other names than `x` if these do. -/
theorem forall_ne_of_map_fst {α β : Type} {l : List (String × α)} {l' : List (String × β)}
    (h : l'.map (·.1) = l.map (·.1)) (hne : ∀ e ∈ l, e.1 ≠ x) : ∀ e ∈ l', e.1 ≠ x := by
  intro e he
  have hmem : e.1 ∈ l.map (·.1) := h ▸ List.mem_map_of_mem he
  obtain ⟨e', he', heq⟩ := List.mem_map.mp hmem
  exact heq ▸ hne e' he'

end Bindings

/-! ### Turns -/

section Turns

variable {host : Host} {j : Jumps} {x : String} {task task' : Task} {s s' : State}

theorem spares_of_starts (h : Task.Starts host j task s task' s') (hspares : task.Spares x) :
    task'.Spares x := by
  cases h with
  | tag =>
    cases (List.forall_mem_cons.mp hspares).1 with
    | tag hstatement => exact hstatement
  | nextNode _ => exact (List.forall_mem_cons.mp hspares).2
  | branch =>
    cases hspares with
    | branch hbodies hotherwise => exact ⟨hbodies, hotherwise⟩
  | chosen _ _ => exact (List.forall_mem_cons.mp hspares.1).1
  | nextBranch _ _ => exact ⟨(List.forall_mem_cons.mp hspares.1).2, hspares.2⟩
  | otherwise => exact hspares.2 _ rfl
  | compared _ _ _ =>
    cases hspares with
    | compare hbody _ => exact hbody
  | notCompared _ _ _ =>
    cases hspares with
    | compare _ hotherwise => exact hotherwise _ rfl
  | empty _ _ =>
    cases hspares with
    | loop _ _ _ hempty => exact hempty _ rfl
  | visits _ _ =>
    cases hspares with
    | loop hfirst hsecond hbody _ => exact ⟨hfirst, hsecond, hbody⟩
  | visit => exact hspares.2.2
  | nextVisit _ => exact hspares
  | withBody _ =>
    cases hspares with
    | bind _ hbody => exact hbody
  | escaping | filtering | spaceless =>
    cases hspares
    assumption
  | custom =>
    cases hspares with
    | custom hsteps => exact hsteps
  | ran | captured =>
    cases (List.forall_mem_cons.mp hspares).1
    assumption
  | nextStep _ => exact (List.forall_mem_cons.mp hspares).2
  | _ => trivial

theorem counts_of_starts {rounds : Rounds} (h : Task.Starts host j task s task' s')
    (hcounts : task.Counts rounds) (hlookup : s'.lookup "forloop" = rounds.record) :
    task'.Counts rounds := by
  cases h with
  | visits _ _ => exact ⟨hlookup, Nat.zero_add _⟩
  | nextVisit _ =>
    obtain ⟨hparent, htotal⟩ := hcounts
    rw [List.length_cons] at htotal
    exact ⟨hparent, by omega⟩
  | _ => trivial

section Sees

variable (hhost : host.Spares x) (hj : j.Leave host x)
include hhost hj

/-- Each turn leaves the name alone, except for the one that enters the body of a loop. -/
theorem sees_of_starts (h : Task.Starts host j task s task' s') (hspares : task.Spares x)
    (hstay : Rounds.after [] task task' = []) : s.Sees x s' := by
  have hr := plainRespected_leaves hhost
  have hf := leaves_callFunction hhost hj
  have heval e {s s' : State} {result} (h : Expr.eval j e host s = (result, s')) :
      s.Sees x s' := .of_run (leaves_eval hhost hj e) h
  have hcall v {s s' : State} {result} (h : evalPath.implicitCall j v host s = (result, s')) :
      s.Sees x s' := .of_run (keeps_implicitCall hr hf v) h
  have hall es {s s' : State} {result} (h : evalAll j es host s = (result, s')) :
      s.Sees x s' := .of_run (keeps_evalAll hr hf es) h
  have hratio what e {s s' : State} {result} (h : ratioNumber j what e host s = (result, s')) :
      s.Sees x s' := .of_run (keeps_ratioNumber hr (leaves_eval hhost hj) what e) h
  cases h with
  | visit => cases hstay
  | nextNode done => exact .of_run (leaves_exec hhost hj _ (List.forall_mem_cons.mp hspares).1) done
  | chosen done _ | nextBranch done _ | rhs done | empty done _ | visits done _
  | nextCandidate done _ | nextBinding done | nextItem done | right done _ | filters done =>
    exact heval _ done
  | compared done done' _ | notCompared done done' _ => exact (heval _ done).trans (heval _ done')
  | nextVisit done =>
    exact .of_run (keeps_inScope hr _ (leaves_execNodes hhost hj _ hspares.2.2)) done
  | includeBindings done => exact .of_run (keeps_find hr (leaves_eval hhost hj) _ _ _) done
  | withBody done =>
    cases hspares with
    | bind hbindings _ =>
      have hnames := forall_ne_of_map_fst (map_fst_of_evalBindings done) hbindings
      exact (State.Sees.of_run (keeps_evalBindings hr (leaves_eval hhost hj) _) done).push hnames
  | filteringText done =>
    cases hspares with
    | filtering hbody => exact .of_run (keeps_capture hr (leaves_execNodes hhost hj _ hbody)) done
  | ratioMost done => exact hratio _ _ done
  | ratioWidth done done' => exact (hratio _ _ done).trans (hratio _ _ done')
  | nextStep done => exact .of_run (leaves_step hhost hj _ (List.forall_mem_cons.mp hspares).1) done
  | nextFilter done => exact .of_run (keeps_applyFilter hr _ _ _ _ _) done
  | nextFilterWith done done' =>
    exact (heval _ done).trans (.of_run (keeps_applyFilter hr _ _ _ _ _) done')
  | called done done' => exact (hall _ done).trans (.of_run (hf _ _) done')
  | methodArguments done | member done _ _ | index done _ | key done _ => exact hcall _ done
  | methodCalled done done' done'' =>
    exact (hcall _ done).trans <| (hall _ done').trans (.of_run (keeps_callMethod hr _ _ _) done'')
  | subscript done _ done' _ => exact (hcall _ done).trans (heval _ done')
  | _ => exact ⟨⟨rfl, rfl⟩, rfl, rfl, fun _ => rfl⟩

end Sees

end Turns

/-! ### Points -/

/-- The state is inside loops with the given rounds: `forloop` is their record, the data do not know
it, and no block binds it. -/
structure State.Around (rounds : Rounds) (s : State) : Prop where
  lookup : s.lookup "forloop" = rounds.record
  context : s.context.get? "forloop" = none
  globals : s.globals.get? "forloop" = none
  spared : s.Spared "forloop"
  rounds_le : ∀ r ∈ rounds, 1 ≤ r.1 ∧ r.1 ≤ r.2

/-- The task is inside loops with the given rounds, and does not bind `forloop`. -/
structure Situated (rounds : Rounds) (task : Task) (s : State) : Prop extends s.Around rounds where
  spares : task.Spares "forloop"
  counts : task.Counts rounds

namespace State.Around

variable {rounds : Rounds} {s s' : State}

theorem of_sees (h : s.Around rounds) (hsees : s.Sees "forloop" s') : s'.Around rounds where
  lookup := (hsees.lookup h.spared).trans h.lookup
  context := hsees.context ▸ h.context
  globals := hsees.globals ▸ h.globals
  spared := h.spared.of_sameFrames hsees.toSameFrames
  rounds_le := h.rounds_le

/-- Outside of loops nothing is known about them. -/
theorem of_free (hspared : s.Spared "forloop") (hfree : s.Free "forloop") : s.Around [] :=
  ⟨hfree.lookup_eq, hfree.context, hfree.globals, hspared, nofun⟩

/-- A block shows bodies inside the same loops. -/
theorem block (h : s.Around rounds) {overridden : List Body}
    (hoverridden : ∀ body ∈ overridden, Body.Spares "forloop" body) (out : Sink) :
    ({ s with blocks := overridden :: s.blocks, out }).Around rounds :=
  { h with spared := ⟨h.spared.chain, List.forall_mem_cons.mpr ⟨hoverridden, h.spared.blocks⟩⟩ }

/-- A template is rendered inside the same loops, whatever its chain. -/
theorem chain (h : s.Around rounds) {chain : List Template}
    (hchain : ∀ t ∈ chain, t.BlocksSpare "forloop") : ({ s with chain }).Around rounds :=
  { h with spared := ⟨hchain, h.spared.blocks⟩ }

/-- An include sees the loops around it, unless it is shut off from them. -/
theorem including (h : s.Around rounds) {values : List (String × Value)}
    (hnames : ∀ b ∈ values, b.1 ≠ "forloop") (only : Bool) :
    (s.including values only).Around (if only then [] else rounds) := by
  have hvalues := Table.get?_ofList_of_forall_ne hnames
  have hspared : (s.including values only).Spared "forloop" := ⟨h.spared.chain, h.spared.blocks⟩
  cases only with
  | true =>
    refine of_free hspared ⟨?_, h.context, h.globals⟩
    exact List.forall_mem_cons.mpr ⟨hvalues, List.forall_mem_singleton.mpr rfl⟩
  | false =>
    have hlookup := State.lookup_scope hvalues { s with depth := s.depth + 1 }
    exact ⟨hlookup.trans h.lookup, h.context, h.globals, hspared, h.rounds_le⟩

end State.Around

/-! ### The body of a loop -/

/-- The scope of a visit binds `forloop` to the counters, unless a variable of the loop does. -/
theorem get?_bindings {first : String} {second : Option String} (hfirst : first ≠ "forloop")
    (hsecond : ∀ name ∈ second, name ≠ "forloop") (counters : Value) (visit : Value × Value) :
    (Table.ofList (Loop.bindings first second counters visit)).get? "forloop" = some counters := by
  cases second with
  | none => exact (Table.get?_insert_of_ne _ hfirst.symm _).trans (Table.get?_insert_self [] _ _)
  | some second =>
    have hsecond := (hsecond second rfl).symm
    exact (Table.get?_insert_of_ne _ hsecond _).trans <|
      (Table.get?_insert_of_ne _ hfirst.symm _).trans (Table.get?_insert_self [] _ _)

/-- At the visit with index `i` of `total` there is one more loop around. -/
theorem State.Around.visit {rounds : Rounds} {s : State} (h : s.Around rounds) {first : String}
    {second : Option String} (hfirst : first ≠ "forloop")
    (hsecond : ∀ name ∈ second, name ≠ "forloop") {i total : Nat} (hi : i < total)
    (visit : Value × Value) :
    ({ s with
      scopes := Table.ofList
        (Loop.bindings first second (Loop.counters i total rounds.record) visit) ::
          s.scopes }).Around
          ((i + 1, total) :: rounds) where
  lookup := by
    unfold State.lookup
    rw [List.findSome?_cons, get?_bindings hfirst hsecond]
    rfl
  context := h.context
  globals := h.globals
  spared := ⟨h.spared.chain, h.spared.blocks⟩
  rounds_le := List.forall_mem_cons.mpr ⟨⟨Nat.succ_pos i, hi⟩, h.rounds_le⟩

/-! ### Every point -/

namespace Situated

variable {host : Host} {rounds : Rounds} {task task' : Task} {s s' : State}

/-- Each turn leads to the point that the rounds say: into the body of a loop, or to one inside the
same loops. -/
theorem turn (hhost : host.Spares "forloop") {fuel : Nat} (h : Situated rounds task s)
    (hstarts : Task.Starts host (.upTo fuel) task s task' s') :
    Situated (rounds.after task task') task' s' := by
  have hspares := spares_of_starts hstarts h.spares
  by_cases hstay : Rounds.after [] task task' = []
  · have hafter : rounds.after task task' = rounds := by
      unfold Rounds.after at hstay ⊢
      split at hstay
      · cases hstay
      · rfl
    have haround : s'.Around rounds :=
      h.toAround.of_sees (sees_of_starts hhost (leave_upTo hhost fuel) hstarts h.spares hstay)
    rw [hafter]
    exact ⟨haround, hspares, counts_of_starts hstarts h.counts haround.lookup⟩
  · cases hstarts with
    | @visit _ _ _ total _ i visit _ =>
      obtain ⟨hfirst, hsecond, -⟩ := h.spares
      obtain ⟨rfl, htotal⟩ := h.counts
      have hi : i < total := by
        rw [← htotal, List.length_cons]
        omega
      exact ⟨h.toAround.visit hfirst hsecond hi visit, hspares, trivial⟩
    | _ => exact absurd rfl hstay

section Calls

variable (hhost : host.Spares "forloop") {j : Jumps} (hj : j.Leave host "forloop")
include hhost hj

/-- The body of a macro sees the loops around the call. -/
theorem called (h : Situated rounds task s) {m : Macro} (hparams : ∀ p ∈ m.params, p.1 ≠ "forloop")
    (hspares : Body.Spares "forloop" m.body) {args : List Value} {values : List (String × Value)}
    {s₁ : State}
    (hbound : bindParameters j m.params args host { s with depth := s.depth + 1 } =
    (.ok values, s₁)) :
    Situated rounds (.nodes m.body)
      { s₁ with scopes := Table.ofList values :: s₁.scopes, out := .empty } := by
  have hr := plainRespected_leaves hhost
  have hsees := (State.Sees.of_run (keeps_bindParameters hr hj.eval _ _) hbound).push
    (forall_ne_of_map_fst (map_fst_of_bindParameters hbound) hparams)
  refine ⟨h.toAround.of_sees
    ⟨⟨hsees.chain, hsees.blocks⟩, hsees.context, hsees.globals, ?_⟩, hspares,
    trivial⟩
  exact fun hs => hsees.lookup ⟨hs.chain, hs.blocks⟩

/-- An included template sees the loops around the include, unless it is shut off from them. -/
theorem included {target : Target} {base : String} {bindings : List (String × Expr)}
    {only ifExists : Bool}
    (h : Situated rounds (.statement (.includes target base bindings only ifExists)) s)
    {t root : Template} {younger : List Template} {values : List (String × Value)}
    {s₁ s₂ s₃ : State}
    (hfound : target.find? j base ifExists host s = (.ok (some t), s₁))
    (hbound : evalBindings j bindings host s₁ = (.ok values, s₂))
    (hchain : t.chain j host (s₂.including values only) = (.ok (root :: younger), s₃))
    (hspares : Body.Spares "forloop" root.nodes)
    (hblocks : ∀ t ∈ root :: younger, t.BlocksSpare "forloop") :
    Situated (if only then [] else rounds) (.nodes root.nodes)
      { s₃ with chain := root :: younger } := by
  have hr := plainRespected_leaves hhost
  have heval := leaves_eval hhost hj
  have hnames : ∀ b ∈ values, b.1 ≠ "forloop" :=
    forall_ne_of_map_fst (map_fst_of_evalBindings hbound)
      (match h.spares with | .includes hbindings => hbindings)
  have hvalues : s.Sees "forloop" s₂ :=
    (State.Sees.of_run (keeps_find hr heval _ _ _) hfound).trans
      (.of_run (keeps_evalBindings hr heval _) hbound)
  have hentered := (h.toAround.of_sees hvalues).including hnames only
  have hready := hentered.of_sees (.of_run (keeps_chain hr heval _) hchain)
  exact ⟨hready.chain hblocks, hspares, trivial⟩

end Calls

end Situated

/-- Wherever a render is inside loops, `forloop` is the record of their rounds. -/
theorem Inside.situated {host : Host} (hhost : host.Spares "forloop") {fuel : Nat} {rounds : Rounds}
    {task : Task} {s : State} (h : Inside host fuel rounds task s) : Situated rounds task s := by
  induction h with
  | start spares spared free => exact ⟨.of_free spared free, spares, trivial⟩
  | turn _ starts ih => exact ih.turn hhost starts
  | own _ _ ih =>
    have hbody := match ih.spares with | .block hbody => hbody
    exact ⟨ih.block (List.forall_mem_nil _) _, hbody, trivial⟩
  | @youngest _ _ name _ _ _ _ _ chain ih =>
    have hbodies := spares_bodiesOf ih.spared.chain name
    rw [chain] at hbodies
    obtain ⟨hbody, hoverridden⟩ := List.forall_mem_cons.mp hbodies
    exact ⟨ih.block hoverridden _, hbody, trivial⟩
  | overridden _ frame ih =>
    have hbodies := ih.spared.blocks
    rw [frame] at hbodies
    obtain ⟨hbody, hrest⟩ := List.forall_mem_cons.mp (List.forall_mem_cons.mp hbodies).1
    exact ⟨ih.block hrest _, hbody, trivial⟩
  | called _ params spares bound ih =>
    exact ih.called hhost (leave_upTo hhost _) params spares bound
  | included _ found bound chain spares blocks ih =>
    exact ih.included hhost (leave_upTo hhost _) found bound chain spares blocks

end Stencil
