import Stencil.Proofs.Render.Points

/-!
# Names that renders leave alone

What a tag binds it binds in the innermost scope, which a body shares with what stands around it. So
a name keeps its value in that scope through nodes that do not bind it, unless one of the bodies
that they show instead of their own, or a function of the host, does.
-/

namespace Stencil

open Render

/-! ## Trees -/

section Trees

variable (x : String)

mutual

/-- The node and the bodies in it do not bind the name. -/
inductive Node.Spares : Node → Prop where
  | text (s : String) : Node.Spares (.text s)
  | output (p : Position) (e : Expr) : Node.Spares (.output p e)
  | tag {name : String} {p : Position} {statement : Statement}
      (hstatement : Statement.Spares statement) : Node.Spares (.tag name p statement)

/-- The statement and the bodies in it do not bind the name. -/
inductive Statement.Spares : Statement → Prop where
  | branch {branches : List (Expr × List Node)} {otherwise : Option (List Node)}
      (hbodies : ∀ b ∈ branches, ∀ n ∈ b.2, Node.Spares n)
      (hotherwise : ∀ body ∈ otherwise, ∀ n ∈ body, Node.Spares n) :
      Statement.Spares (.branch branches otherwise)
  | compare {lhs rhs : Expr} {negated : Bool} {body : List Node} {otherwise : Option (List Node)}
      (hbody : ∀ n ∈ body, Node.Spares n)
      (hotherwise : ∀ body ∈ otherwise, ∀ n ∈ body, Node.Spares n) :
      Statement.Spares (.compare lhs rhs negated body otherwise)
  | loop {first : String} {second : Option String} {source : Expr} {reversed sorted : Bool}
      {body : List Node} {empty : Option (List Node)} (hfirst : first ≠ x)
      (hsecond : ∀ name ∈ second, name ≠ x) (hbody : ∀ n ∈ body, Node.Spares n)
      (hempty : ∀ body ∈ empty, ∀ n ∈ body, Node.Spares n) :
      Statement.Spares (.loop first second source reversed sorted body empty)
  | cycle {values : List Expr} {target : Option String} {silent : Bool}
      (htarget : ∀ name ∈ target, name ≠ x) : Statement.Spares (.cycle values target silent)
  | firstOf (values : List Expr) : Statement.Spares (.firstOf values)
  | block {name : String} {body : List Node} (hbody : ∀ n ∈ body, Node.Spares n) :
      Statement.Spares (.block name body)
  | includes {target : Target} {base : String} {bindings : List (String × Expr)}
      {only ifExists : Bool} (hbindings : ∀ b ∈ bindings, b.1 ≠ x) :
      Statement.Spares (.includes target base bindings only ifExists)
  | imports {macros : List (String × Macro)} (hmacros : ∀ m ∈ macros, m.1 ≠ x) :
      Statement.Spares (.imports macros)
  | bind {bindings : List (String × Expr)} {body : List Node} (hbindings : ∀ b ∈ bindings, b.1 ≠ x)
      (hbody : ∀ n ∈ body, Node.Spares n) : Statement.Spares (.bind bindings body)
  | assign {name : String} {e : Expr} (hname : name ≠ x) : Statement.Spares (.assign name e)
  | define {m : Macro} (hname : m.name ≠ x) : Statement.Spares (.define m)
  | escaping {enabled : Bool} {body : List Node} (hbody : ∀ n ∈ body, Node.Spares n) :
      Statement.Spares (.escaping enabled body)
  | filtering {filters : List FilterCall} {body : List Node} (hbody : ∀ n ∈ body, Node.Spares n) :
      Statement.Spares (.filtering filters body)
  | spaceless {body : List Node} (hbody : ∀ n ∈ body, Node.Spares n) :
      Statement.Spares (.spaceless body)
  | nothing : Statement.Spares .nothing
  | now (format : String) (fake : Bool) : Statement.Spares (.now format fake)
  | write (text : String) : Statement.Spares (.write text)
  | ratio {value most width : Expr} {target : Option String} (htarget : ∀ name ∈ target, name ≠ x) :
      Statement.Spares (.ratio value most width target)
  | custom {steps : List Step} (hsteps : ∀ step ∈ steps, Step.Spares step) :
      Statement.Spares (.custom steps)

/-- The step and the body in it do not bind the name. -/
inductive Step.Spares : Step → Prop where
  | write (text : String) : Step.Spares (.write text)
  | run {body : List Node} (hbody : ∀ n ∈ body, Node.Spares n) : Step.Spares (.run body)
  | captured {key : String} {body : List Node} (hbody : ∀ n ∈ body, Node.Spares n) :
      Step.Spares (.captured key body)
  | shown (key : String) (e : Expr) : Step.Spares (.shown key e)

end

/-- The nodes of the body do not bind the name. -/
def Body.Spares (body : Body) : Prop := ∀ n ∈ body, n.Spares x

/-- The bodies that blocks of the template show do not bind the name. -/
def Template.BlocksSpare (t : Template) : Prop := ∀ b ∈ t.blocks, Body.Spares x b.2

end Trees

/-! ## States -/

namespace State

variable {x : String} {s t u : State}

/-- What the innermost scope knows under the name. -/
def own? (s : State) (x : String) : Option Value := s.scopes.head?.bind (·.get? x)

/-- The bodies that may be shown for a block do not bind the name. -/
structure Spared (x : String) (s : State) : Prop where
  chain : ∀ t ∈ s.chain, t.BlocksSpare x
  blocks : ∀ bodies ∈ s.blocks, ∀ body ∈ bodies, Body.Spares x body

/-- The name keeps its value in the innermost scope, if no block binds it. -/
structure Leaves (x : String) (s s' : State) : Prop where
  balanced : s.Balanced s'
  own : s.Spared x → s'.own? x = s.own? x

theorem Spared.of_balanced (hs : s.Spared x) (h : s.Balanced t) : t.Spared x where
  chain := h.chain ▸ hs.chain
  blocks := h.blocks ▸ hs.blocks

theorem own?_bind_of_ne {name : String} (h : name ≠ x) (s : State) (v : Value) :
    (s.bind name v).own? x = s.own? x := by
  unfold bind own?
  rcases hscopes : s.scopes with _ | ⟨scope, rest⟩
  · dsimp only
    rw [hscopes]
  · exact Table.get?_insert_of_ne scope h.symm v

namespace Leaves

theorem refl (s : State) : s.Leaves x s := ⟨.refl s, fun _ => rfl⟩

theorem trans (hst : s.Leaves x t) (htu : t.Leaves x u) : s.Leaves x u where
  balanced := hst.balanced.trans htu.balanced
  own hs := (htu.own (hs.of_balanced hst.balanced)).trans (hst.own hs)

theorem bind {name : String} (h : name ≠ x) (s : State) (v : Value) :
    s.Leaves x (s.bind name v) := ⟨.bind s name v, fun _ => own?_bind_of_ne h s v⟩

/-- What is bound in a scope of its own is gone behind it. -/
theorem of_scope {scope : Bindings} (h : ({ s with scopes := scope :: s.scopes }).Balanced t) :
    s.Leaves x { t with scopes := t.scopes.tail } := by
  have hscopes : t.scopes.tail = s.scopes := h.scopes.tail_eq
  refine ⟨{ h with scopes := ?_ }, fun _ => ?_⟩
  · rw [hscopes]
    exact .refl _
  · unfold own?
    rw [hscopes]

/-- All scopes are set back behind what hides them. -/
theorem of_scopes {scopes : List Bindings} (h : ({ s with scopes }).Balanced t) :
    s.Leaves x { t with scopes := s.scopes } := ⟨{ h with scopes := .refl _ }, fun _ => rfl⟩

/-- A body inside a block that shows the given bodies. -/
theorem of_block {overridden : List Body} (hoverridden : ∀ body ∈ overridden, Body.Spares x body)
    (h : ({ s with blocks := overridden :: s.blocks }).Leaves x t) :
    s.Leaves x { t with blocks := t.blocks.tail } := by
  have hblocks : t.blocks = overridden :: s.blocks := h.balanced.blocks
  refine ⟨{ h.balanced with blocks := ?_ }, fun hs => ?_⟩
  · rw [hblocks]
    rfl
  · exact h.own ⟨hs.chain, List.forall_mem_cons.mpr ⟨hoverridden, hs.blocks⟩⟩

end Leaves

/-- A name that keeps its value in the innermost scope keeps its value. -/
theorem Leaves.lookup_eq (h : s.Leaves x t) (hs : s.Spared x) : t.lookup x = s.lookup x := by
  have hown := h.own hs
  have hscopes : t.scopes.findSome? (·.get? x) = s.scopes.findSome? (·.get? x) := by
    unfold own? at hown
    have hgrow := h.balanced.scopes
    generalize s.scopes = scopes, t.scopes = scopes' at hown hgrow
    cases hgrow with
    | none => rfl
    | innermost rest hkeys =>
      have hhead : Table.get? _ x = Table.get? _ x := hown
      rw [List.findSome?_cons, List.findSome?_cons, hhead]
  unfold lookup
  rw [hscopes, h.balanced.context, h.balanced.globals]

end State

/-! ## Steps -/

/-- A host whose functions leave the state balanced and do not bind the name. -/
structure Host.Spares (x : String) (host : Host) : Prop where
  balanced : host.Balanced
  own : ∀ key data args s, (host.function key data args s).2.own? x = s.own? x

/-- The jumps leave the name alone, if the bodies they run do not bind it. -/
structure Jumps.Leave (host : Host) (x : String) (j : Jumps) : Prop where
  keep : j.Keep host State.Balanced
  run : ∀ nodes, Body.Spares x nodes → Keeps host (State.Leaves x) (j.run nodes)
  runOverridden : ∀ nodes, Body.Spares x nodes →
    Keeps host (State.Leaves x) (j.runOverridden nodes)
  eval : ∀ e, Keeps host (State.Leaves x) (j.eval e)

variable {host : Host} {x : String} {α : Type}

theorem leaves_inScope (bindings : List (String × Value)) {r : Render α}
    (hr : Keeps host State.Balanced r) : Keeps host (State.Leaves x) (inScope bindings r) :=
  fun _ => .of_scope (hr _)

theorem leaves_isolated (bindings : List (String × Value)) {r : Render α}
    (hr : Keeps host State.Balanced r) : Keeps host (State.Leaves x) (isolated bindings r) :=
  fun _ => .of_scopes (hr _)

theorem leaves_withBlock {overridden : List Body}
    (hoverridden : ∀ body ∈ overridden, Body.Spares x body) {r : Render α}
    (hr : Keeps host (State.Leaves x) r) : Keeps host (State.Leaves x) (withBlock overridden r) :=
  fun _ => .of_block hoverridden (hr _)

theorem leaves_assign {name : String} (hname : name ≠ x) (v : Value) :
    Keeps host (State.Leaves x) (modify (·.bind name v) : Render Unit) :=
  keeps_modify fun s => .bind hname s v

theorem leaves_import {macros : List (String × Macro)} (hmacros : ∀ m ∈ macros, m.1 ≠ x) :
    Keeps host (State.Leaves x) (modify fun s =>
      macros.foldl (fun s e => s.bind e.1 (.func (.ofMacro e.2))) s : Render Unit) := by
  refine keeps_modify fun s => ?_
  induction macros generalizing s with
  | nil => exact .refl s
  | cons e macros ih =>
    obtain ⟨he, hmacros⟩ := List.forall_mem_cons.mp hmacros
    exact (State.Leaves.bind he s _).trans (ih hmacros _)

/-- It is enough to look at states whose blocks do not bind the name. -/
theorem leaves_of_spared {r : Render α} (hbalanced : Keeps host State.Balanced r)
    (h : ∀ s : State, s.Spared x → s.Leaves x (r host s).2) : Keeps host (State.Leaves x) r :=
  fun s => ⟨hbalanced s, fun hs => (h s hs).own hs⟩

/-- What the chain of templates gives to a block does not bind the name. -/
theorem spares_bodiesOf {chain : List Template} (h : ∀ t ∈ chain, t.BlocksSpare x) (name : String) :
    ∀ body ∈ bodiesOf name chain, Body.Spares x body := by
  intro body hbody
  unfold bodiesOf at hbody
  obtain ⟨t, ht, hblock⟩ := List.mem_filterMap.mp (List.mem_reverse.mp hbody)
  exact h t ht (name, body) (Table.mem_of_get? hblock)

section Steps

variable (hhost : host.Spares x)
include hhost

theorem plainRespected_leaves : PlainRespected host (State.Leaves x) where
  refl := .refl
  trans := .trans
  output s out := ⟨{ State.Balanced.refl s with }, fun _ => rfl⟩
  load s l referrer name _ := ⟨{ State.Balanced.refl s with }, fun _ => rfl⟩
  function key data args s := ⟨hhost.balanced key data args s, fun _ => hhost.own key data args s⟩
  inScope _ h := .of_scope h.balanced
  isolated _ h := .of_scopes h.balanced
  autoescape enabled h :=
    ⟨{ h.balanced with autoescape := rfl }, fun hs => h.own ⟨hs.chain, hs.blocks⟩⟩
  deeper {s t} h := by
    have hdepth : t.depth = s.depth + 1 := h.balanced.depth
    refine ⟨{ h.balanced with depth := ?_ }, fun hs => h.own ⟨hs.chain, hs.blocks⟩⟩
    rw [hdepth]
    rfl

variable {j : Jumps} (hj : j.Leave host x)
include hj

theorem leaves_callMacro (m : Macro) (args : List Value) :
    Keeps host (State.Leaves x) (callMacro j m args) := by
  have h := plainRespected_leaves hhost
  have hb := respected_balanced hhost.balanced
  refine keeps_deeper h _ (keeps_bind h (keeps_bindParameters h hj.eval _ _) fun bindings => ?_)
  have hbody := keeps_capture hb (hj.keep.run m.body)
  exact keeps_bind h (leaves_inScope bindings hbody) fun _ => keeps_pure h _

theorem leaves_renderSuper : Keeps host (State.Leaves x) (renderSuper j) := by
  have h := plainRespected_leaves hhost
  refine leaves_of_spared (keeps_renderSuper (respected_balanced hhost.balanced) hj.keep) ?_
  intro s hs
  have hblocks := hs.blocks
  unfold renderSuper
  rw [run_get_bind]
  rcases hframes : s.blocks with _ | ⟨_ | ⟨body, rest⟩, frames⟩
  · exact .refl s
  · exact .refl s
  · rw [hframes] at hblocks
    obtain ⟨hbody, hrest⟩ := List.forall_mem_cons.mp (List.forall_mem_cons.mp hblocks).1
    have hrun := leaves_withBlock hrest (keeps_capture h (hj.runOverridden body hbody))
    exact keeps_bind h hrun (fun _ => keeps_pure h _) s

theorem leaves_callFunction (f : Function) (args : List Value) :
    Keeps host (State.Leaves x) (callFunction j f args) := by
  have h := plainRespected_leaves hhost
  refine keeps_bind h (keeps_ofFault h _) fun _ => ?_
  split
  · exact leaves_callMacro hhost hj _ _
  · exact leaves_renderSuper hhost hj
  · exact keeps_callHost h _ _ _

theorem leaves_eval (e : Expr) : Keeps host (State.Leaves x) (e.eval j) :=
  keeps_eval_of_call (plainRespected_leaves hhost) (leaves_callFunction hhost hj) e

theorem leaves_renderBlock (name : String) {own : Render Unit}
    (hown : Keeps host (State.Leaves x) own) :
    Keeps host (State.Leaves x) (renderBlock j name own) := by
  refine leaves_of_spared (keeps_renderBlock (respected_balanced hhost.balanced) hj.keep name
    fun s => (hown s).balanced) ?_
  intro s hs
  have hbodies := spares_bodiesOf hs.chain name
  unfold renderBlock
  rw [run_get_bind]
  rcases hchain : bodiesOf name s.chain with _ | ⟨body, overridden⟩
  · exact leaves_withBlock (List.forall_mem_nil _) hown s
  · rw [hchain] at hbodies
    obtain ⟨hbody, hoverridden⟩ := List.forall_mem_cons.mp hbodies
    exact leaves_withBlock hoverridden (hj.run body hbody) s

end Steps

/-! ## Nodes -/

section Nodes

variable {j : Jumps}

mutual

/-- Nodes that do not bind a name leave it alone. -/
theorem leaves_execNodes (hhost : host.Spares x) (hj : j.Leave host x) :
    (nodes : List Node) → (∀ n ∈ nodes, n.Spares x) →
      Keeps host (State.Leaves x) (execNodes j nodes)
  | [], _ => keeps_pure (plainRespected_leaves hhost) ()
  | n :: ns, h =>
    have ⟨hn, hns⟩ := List.forall_mem_cons.mp h
    keeps_bind (plainRespected_leaves hhost) (leaves_exec hhost hj n hn) fun _ =>
      leaves_execNodes hhost hj ns hns

theorem leaves_exec (hhost : host.Spares x) (hj : j.Leave host x) :
    (n : Node) → n.Spares x → Keeps host (State.Leaves x) (n.exec j)
  | .text s, _ => keeps_write (plainRespected_leaves hhost) s
  | .output p e, _ =>
    keeps_located p (keeps_bind (plainRespected_leaves hhost) (leaves_eval hhost hj e) fun v =>
      keeps_writeValue (plainRespected_leaves hhost) v)
  | .tag _ p statement, .tag h => keeps_located p (leaves_statement hhost hj statement h)

theorem leaves_statement (hhost : host.Spares x) (hj : j.Leave host x) :
    (statement : Statement) → statement.Spares x → Keeps host (State.Leaves x) (statement.exec j)
  | .branch branches otherwise, .branch hbodies hotherwise =>
    leaves_execBranches hhost hj
      (leaves_execOptional hhost hj otherwise hotherwise) branches hbodies
  | .compare lhs rhs negated body otherwise, .compare hbody hotherwise => by
    have hr := plainRespected_leaves hhost
    refine keeps_bind hr (leaves_eval hhost hj lhs) fun a => ?_
    refine keeps_bind hr (leaves_eval hhost hj rhs) fun b => ?_
    split
    · exact leaves_execNodes hhost hj body hbody
    · exact leaves_execOptional hhost hj otherwise hotherwise
  | .loop first second source reversed sorted body empty, .loop _ _ hbody hempty => by
    have hr := plainRespected_leaves hhost
    refine keeps_bind hr (leaves_eval hhost hj source) fun v => ?_
    refine keeps_bind hr (keeps_visitsOf hr v _ _ _) fun visits => ?_
    split
    · exact leaves_execOptional hhost hj empty hempty
    · refine keeps_bind hr (keeps_get hr) fun s => ?_
      exact keeps_forEach hr first second _ _ (leaves_execNodes hhost hj body hbody) 0 _
  | .cycle values target silent, .cycle htarget => by
    have hr := plainRespected_leaves hhost
    refine keeps_bind hr (keeps_get hr) fun s => ?_
    refine keeps_bind hr (leaves_eval hhost hj _) fun v => ?_
    have hwrite : Keeps host (State.Leaves x)
      (if !silent then Render.writeValue v else pure ()) := by
      split
      · exact keeps_writeValue hr v
      · exact keeps_pure hr ()
    cases target with
    | none => exact hwrite
    | some name => exact keeps_bind hr (leaves_assign (htarget name rfl) v) fun _ => hwrite
  | .firstOf values, _ => by
    have hr := plainRespected_leaves hhost
    refine keeps_bind hr (keeps_firstTrue hr (leaves_eval hhost hj) values) fun found => ?_
    split
    · exact keeps_writeValue hr _
    · exact keeps_pure hr ()
  | .block name body, .block hbody =>
    leaves_renderBlock hhost hj name (leaves_execNodes hhost hj body hbody)
  | .includes target base bindings only ifExists, _ => by
    have hr := plainRespected_leaves hhost
    have heval := leaves_eval hhost hj
    have hb := respected_balanced hhost.balanced
    refine keeps_bind hr (keeps_find hr heval target base ifExists) fun found => ?_
    split
    · refine keeps_bind hr (keeps_evalBindings hr heval bindings) fun values => keeps_deeper hr _ ?_
      split
      · exact leaves_isolated values (keeps_render hb hj.keep _)
      · exact leaves_inScope values (keeps_render hb hj.keep _)
    · exact keeps_pure hr ()
  | .imports macros, .imports hmacros => leaves_import hmacros
  | .bind bindings body, _ => by
    have hr := plainRespected_leaves hhost
    have hbody := keeps_execNodes (respected_balanced hhost.balanced) hj.keep body
    exact keeps_bind hr (keeps_evalBindings hr (leaves_eval hhost hj) bindings) fun values =>
      leaves_inScope values hbody
  | .assign name e, .assign hname =>
    keeps_bind (plainRespected_leaves hhost) (leaves_eval hhost hj e) fun v => leaves_assign hname v
  | .define m, .define hname => leaves_assign hname _
  | .escaping enabled body, .escaping hbody =>
    keeps_withAutoescape (plainRespected_leaves hhost) enabled
      (leaves_execNodes hhost hj body hbody)
  | .filtering filters body, .filtering hbody => by
    have hr := plainRespected_leaves hhost
    have hcall := leaves_callFunction hhost hj
    refine keeps_bind hr (keeps_capture hr (leaves_execNodes hhost hj body hbody)) fun text => ?_
    exact keeps_bind hr (keeps_evalFilters hr hcall filters _) fun v => keeps_writeValue hr v
  | .spaceless body, .spaceless hbody => by
    have hr := plainRespected_leaves hhost
    exact keeps_bind hr (keeps_capture hr (leaves_execNodes hhost hj body hbody)) fun _ =>
      keeps_write hr _
  | .nothing, _ => keeps_pure (plainRespected_leaves hhost) ()
  | .now format fake, _ => by
    have hr := plainRespected_leaves hhost
    refine keeps_bind hr (keeps_read hr) fun _ => ?_
    dsimp only
    split
    · exact keeps_writeValue hr _
    · exact keeps_fail hr _
  | .write text, _ => keeps_write (plainRespected_leaves hhost) text
  | .ratio value most width target, .ratio htarget => by
    have hr := plainRespected_leaves hhost
    have hnumber := keeps_ratioNumber hr (leaves_eval hhost hj)
    refine keeps_bind hr (hnumber _ value) fun value => ?_
    refine keeps_bind hr (hnumber _ most) fun most => ?_
    refine keeps_bind hr (hnumber _ width) fun width => ?_
    cases target with
    | none => exact keeps_write hr _
    | some name => exact leaves_assign (htarget name rfl) _
  | .custom steps, .custom hsteps => leaves_execSteps hhost hj steps hsteps

theorem leaves_execSteps (hhost : host.Spares x) (hj : j.Leave host x) :
    (steps : List Step) → (∀ step ∈ steps, step.Spares x) →
    Keeps host (State.Leaves x) (execSteps j steps)
  | [], _ => keeps_pure (plainRespected_leaves hhost) ()
  | step :: steps, h =>
    have ⟨hstep, hsteps⟩ := List.forall_mem_cons.mp h
    keeps_bind (plainRespected_leaves hhost) (leaves_step hhost hj step hstep) fun _ =>
      leaves_execSteps hhost hj steps hsteps

theorem leaves_step (hhost : host.Spares x) (hj : j.Leave host x) :
    (step : Step) → step.Spares x → Keeps host (State.Leaves x) (step.exec j)
  | .write text, _ => keeps_write (plainRespected_leaves hhost) text
  | .run body, .run hbody => leaves_execNodes hhost hj body hbody
  | .captured _ body, .captured hbody => by
    have hr := plainRespected_leaves hhost
    have hcapture := keeps_capture hr (leaves_execNodes hhost hj body hbody)
    exact keeps_bind hr (keeps_attempt hcapture) fun _ =>
      keeps_bind hr (keeps_read hr) fun _ => keeps_writeAnswer hr _
  | .shown _ e, _ => by
    have hr := plainRespected_leaves hhost
    exact keeps_bind hr (leaves_eval hhost hj e) fun _ =>
      keeps_bind hr (keeps_read hr) fun _ => keeps_writeAnswer hr _

theorem leaves_execBranches (hhost : host.Spares x) (hj : j.Leave host x) {otherwise : Render Unit}
    (ho : Keeps host (State.Leaves x) otherwise) :
    (branches : List (Expr × List Node)) → (∀ b ∈ branches, ∀ n ∈ b.2, n.Spares x) →
    Keeps host (State.Leaves x) (execBranches j otherwise branches)
  | [], _ => ho
  | ⟨condition, body⟩ :: branches, h => by
    obtain ⟨hbody, hbranches⟩ := List.forall_mem_cons.mp h
    refine keeps_bind (plainRespected_leaves hhost) (leaves_eval hhost hj condition) fun v => ?_
    split
    · exact leaves_execNodes hhost hj body hbody
    · exact leaves_execBranches hhost hj ho branches hbranches

theorem leaves_execOptional (hhost : host.Spares x) (hj : j.Leave host x) :
    (body : Option (List Node)) → (∀ nodes ∈ body, ∀ n ∈ nodes, n.Spares x) →
    Keeps host (State.Leaves x) (execOptional j body)
  | none, _ => keeps_pure (plainRespected_leaves hhost) ()
  | some body, h => leaves_execNodes hhost hj body (h body rfl)

end

end Nodes

/-- The jumps of a render leave a name alone, however few may be nested. -/
theorem leave_upTo (hhost : host.Spares x) (fuel : Nat) : (Jumps.upTo fuel).Leave host x := by
  have hkeep := keeps_upTo (respected_balanced hhost.balanced)
  have h := plainRespected_leaves hhost
  induction fuel with
  | zero =>
    exact ⟨hkeep 0, fun _ _ => keeps_throw h _, fun _ _ => keeps_throw h _,
      fun _ => keeps_throw h _⟩
  | succ fuel ih =>
    exact ⟨hkeep (fuel + 1), leaves_execNodes hhost ih, leaves_execNodes hhost ih,
      leaves_eval hhost ih⟩

end Stencil
