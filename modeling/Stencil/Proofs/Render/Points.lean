import Stencil.Proofs.Render.Respect
import Stencil.Proofs.Table

/-!
# Renders set back what they change

What tags change for their bodies is as before when a render is over, and at every point of a render
most of it is as it was at its start.
-/

namespace Stencil

/-!
## What is set back

Tags switch escaping, open scopes, replace all scopes, nest deeper, put another chain of templates
in place and enter blocks. Whatever is executed and however it ends, all of this is as before when
it is over; what stays is what was written, what was loaded, and the bindings of the innermost
scope.
-/

/-! ### Balanced states -/

/-- The scopes of two states of which at most the innermost differs, and it has only got more keys
or other values. -/
inductive Scopes.Grow : List Bindings → List Bindings → Prop where
  | none : Grow [] []
  | innermost {scope scope' : Bindings} (rest : List Bindings) (keys : scope.keys <+: scope'.keys) :
    Grow (scope :: rest) (scope' :: rest)

/-- The two states agree in all that a tag may change for its body. -/
structure State.Balanced (s s' : State) : Prop where
  autoescape : s'.autoescape = s.autoescape
  depth : s'.depth = s.depth
  chain : s'.chain = s.chain
  blocks : s'.blocks = s.blocks
  scopes : Scopes.Grow s.scopes s'.scopes
  context : s'.context = s.context
  globals : s'.globals = s.globals
  recursionLimit : s'.recursionLimit = s.recursionLimit

namespace Scopes.Grow

theorem refl : (scopes : List Bindings) → Grow scopes scopes
  | [] => .none
  | scope :: rest => .innermost rest (List.prefix_refl scope.keys)

theorem trans {a b c : List Bindings} (hab : Grow a b) (hbc : Grow b c) : Grow a c := by
  cases hab with
  | none => exact hbc
  | innermost rest hkeys =>
    cases hbc with
    | innermost _ hkeys' => exact .innermost rest (hkeys.trans hkeys')

/-- What grew from scopes with an inner one has these scopes outside it. -/
theorem tail_eq {scope : Bindings} {rest scopes : List Bindings} (h : Grow (scope :: rest) scopes) :
    scopes.tail = rest := by
  cases h
  rfl

/-- There are as many scopes as before. -/
theorem length_eq {a b : List Bindings} (h : Grow a b) : b.length = a.length := by
  cases h <;> rfl

end Scopes.Grow

namespace State.Balanced

variable {s t u : State}

theorem refl (s : State) : s.Balanced s := ⟨rfl, rfl, rfl, rfl, .refl _, rfl, rfl, rfl⟩

theorem trans (hst : s.Balanced t) (htu : t.Balanced u) : s.Balanced u where
  autoescape := htu.autoescape.trans hst.autoescape
  depth := htu.depth.trans hst.depth
  chain := htu.chain.trans hst.chain
  blocks := htu.blocks.trans hst.blocks
  scopes := hst.scopes.trans htu.scopes
  context := htu.context.trans hst.context
  globals := htu.globals.trans hst.globals
  recursionLimit := htu.recursionLimit.trans hst.recursionLimit

theorem bind (s : State) (name : String) (v : Value) : s.Balanced (s.bind name v) := by
  unfold State.bind
  split
  · exact refl s
  · rename_i scope rest hscopes
    have hgrow : Scopes.Grow s.scopes (scope.insert name v :: rest) := by
      rw [hscopes]
      exact .innermost rest (Table.keys_prefix_insert scope name v)
    exact { refl s with scopes := hgrow }

end State.Balanced

/-! ### Renders -/

/-- A host whose functions leave the state balanced. -/
def Host.Balanced (host : Host) : Prop :=
  ∀ key data args (s : State), s.Balanced (host.function key data args s).2

/-- The steps of a render respect balance: each tag sets back what it changed. -/
theorem respected_balanced {host : Host} (hhost : host.Balanced) :
    Respected host State.Balanced where
  refl := .refl
  trans := .trans
  bind := .bind
  output s out := { State.Balanced.refl s with }
  load s l referrer name _ := { State.Balanced.refl s with }
  function := hhost
  inScope {s t} scope h := by
    have hscopes : t.scopes.tail = s.scopes := h.scopes.tail_eq
    exact { h with scopes := by rw [hscopes]; exact .refl _ }
  isolated {s t} scopes h := { h with scopes := .refl s.scopes }
  autoescape enabled h := { h with autoescape := rfl }
  deeper {s t} h := by
    have hdepth : t.depth = s.depth + 1 := h.depth
    exact { h with depth := by rw [hdepth]; rfl }
  chain chain h := { h with chain := rfl }
  block {s t} overridden h := by
    have hblocks : t.blocks = overridden :: s.blocks := h.blocks
    exact { h with blocks := by rw [hblocks]; rfl }

/-- Executing nodes and evaluating an expression leave the state balanced, also when they fail; so a
tag that swallows the error of its body goes on in the state it came with. -/
theorem balanced_exec_eval {host : Host} (hhost : host.Balanced) (fuel : Nat) (nodes : List Node)
    (e : Expr) (s : State) :
    s.Balanced (execNodes (.upTo fuel) nodes host s).2 ∧
      s.Balanced (e.eval (.upTo fuel) host s).2 ∧
      s.Balanced (Render.attempt (Render.capture (execNodes (.upTo fuel) nodes)) host s).2 := by
  have h := respected_balanced hhost
  have hj := keeps_upTo h fuel
  have hnodes := keeps_execNodes h hj nodes
  exact ⟨hnodes s, keeps_eval h hj e s, keeps_attempt (keeps_capture h hnodes) s⟩

/-- A body that fails with escaping turned off inside an include that is named by a number. -/
def failingBody : List Node :=
  [.tag "autoescape" default (.escaping false
    [.tag "set" default (.assign "x" (.literal (.int 1))),
     .tag "include" default (.includes (.named (.literal (.int 3))) "page" [] false false)])]

theorem balanced_failingBody :
    let s := State.start none [] default .empty
    let host := Host.bare fixedMoment
    (execNodes (.upTo 1) failingBody host s).1 matches .error _ ∧
      s.Balanced (execNodes (.upTo 1) failingBody host s).2 :=
  ⟨rfl, (balanced_exec_eval (fun _ _ _ s => .refl s) 1 failingBody default _).1⟩

/-!
## The points of a render

Executing nodes comes down to executing smaller ones and to evaluating expressions, each of which
starts in a state of its own. These are the points of the execution. What is reached through a jump,
the body of a nested block, an included template, the body of a macro or the next body of a block,
is not among them, but whatever comes behind a jump that returned is.
-/

open Render

/-- Something that a render has to do. -/
inductive Task where
  | nodes (nodes : List Node)
  | statement (statement : Statement)
  /-- Finding the branch to run. -/
  | branches (branches : List (Expr × List Node)) (otherwise : Option (List Node))
  /-- What is left of a loop from the visit with index `i` on. -/
  | visits (first : String) (second : Option String) (parent : Value) (total : Nat)
      (body : List Node) (i : Nat) (visits : List (Value × Value))
  /-- Finding the first expression that is true. -/
  | firstOf (values : List Expr)
  | steps (steps : List Step)
  | expr (e : Expr)
  | exprs (es : List Expr)
  | bindings (bindings : List (String × Expr))
  /-- Following a path from a value. -/
  | path (v : Value) (segments : List Segment)
  | filters (v : Value) (filters : List FilterCall)

namespace Task

variable {host : Host} {j : Jumps}

/-- A task in some state comes to another one, which starts in a state of its own. -/
inductive Starts (host : Host) (j : Jumps) : Task → State → Task → State → Prop where
  -- Nodes, and what their tags do.
  | output {p e ns s} : Starts host j (.nodes (.output p e :: ns)) s (.expr e) s
  | tag {name p st ns s} : Starts host j (.nodes (.tag name p st :: ns)) s (.statement st) s
  | nextNode {n ns s s'} (done : n.exec j host s = (.ok (), s')) :
      Starts host j (.nodes (n :: ns)) s (.nodes ns) s'
  | branch {branches otherwise s} :
      Starts host j (.statement (.branch branches otherwise)) s (.branches branches otherwise) s
  | condition {e body branches otherwise s} :
      Starts host j (.branches ((e, body) :: branches) otherwise) s (.expr e) s
  | chosen {e body branches otherwise s v s'} (done : e.eval j host s = (.ok v, s'))
      (holds : v.isTruthy) :
      Starts host j (.branches ((e, body) :: branches) otherwise) s (.nodes body) s'
  | nextBranch {e body branches otherwise s v s'} (done : e.eval j host s = (.ok v, s'))
      (fails : ¬v.isTruthy) :
      Starts host j (.branches ((e, body) :: branches) otherwise) s
        (.branches branches otherwise) s'
  | otherwise {body s} : Starts host j (.branches [] (some body)) s (.nodes body) s
  | lhs {a b negated body otherwise s} :
      Starts host j (.statement (.compare a b negated body otherwise)) s (.expr a) s
  | rhs {a b negated body otherwise s v s'} (done : a.eval j host s = (.ok v, s')) :
      Starts host j (.statement (.compare a b negated body otherwise)) s (.expr b) s'
  | compared {a b negated body otherwise s v s' w s''} (done : a.eval j host s = (.ok v, s'))
      (done' : b.eval j host s' = (.ok w, s'')) (holds : v.equals w != negated) :
      Starts host j (.statement (.compare a b negated body otherwise)) s (.nodes body) s''
  | notCompared {a b negated body otherwise s v s' w s''} (done : a.eval j host s = (.ok v, s'))
      (done' : b.eval j host s' = (.ok w, s'')) (fails : ¬(v.equals w != negated)) :
      Starts host j (.statement (.compare a b negated body (some otherwise))) s
        (.nodes otherwise) s''
  | source {first second e reversed sorted body empty s} :
      Starts host j (.statement (.loop first second e reversed sorted body empty)) s (.expr e) s
  | empty {first second e reversed sorted body empty s v s'} (done : e.eval j host s = (.ok v, s'))
      (none : Loop.visits host.sorter v second.isSome reversed sorted = some []) :
      Starts host j (.statement (.loop first second e reversed sorted body (some empty))) s
        (.nodes empty) s'
  | visits {first second e reversed sorted body empty s v s' visit visits}
      (done : e.eval j host s = (.ok v, s'))
      (some : Loop.visits host.sorter v second.isSome reversed sorted = some (visit :: visits)) :
      Starts host j (.statement (.loop first second e reversed sorted body empty)) s
        (.visits first second (s'.lookup "forloop") (visits.length + 1) body 0 (visit :: visits)) s'
  | visit {first second parent total body i visit visits s} :
      Starts host j (.visits first second parent total body i (visit :: visits)) s (.nodes body)
        { s with
          scopes := Table.ofList
            (Loop.bindings first second (Loop.counters i total parent) visit) :: s.scopes }
  | nextVisit {first second parent total body i visit visits s s'}
      (done : inScope (Loop.bindings first second (Loop.counters i total parent) visit)
        (execNodes j body) host s = (.ok (), s')) :
      Starts host j (.visits first second parent total body i (visit :: visits)) s
        (.visits first second parent total body (i + 1) visits) s'
  | cycled {values target silent s} :
      Starts host j (.statement (.cycle values target silent)) s
        (.expr (values.getD (Loop.cycleIndex (s.lookup "forloop") values.length) default)) s
  | firstOf {values s} : Starts host j (.statement (.firstOf values)) s (.firstOf values) s
  | candidate {e es s} : Starts host j (.firstOf (e :: es)) s (.expr e) s
  | nextCandidate {e es s v s'} (done : e.eval j host s = (.ok v, s')) (fails : ¬v.isTruthy) :
      Starts host j (.firstOf (e :: es)) s (.firstOf es) s'
  | includeName {e base bindings only ifExists s} :
      Starts host j (.statement (.includes (.named e) base bindings only ifExists)) s (.expr e) s
  | includeBindings {target base bindings only ifExists s t s'}
      (done : Target.find? j target base ifExists host s = (.ok (some t), s')) :
      Starts host j (.statement (.includes target base bindings only ifExists)) s
        (.bindings bindings) s'
  | withBindings {bindings body s} :
      Starts host j (.statement (.bind bindings body)) s (.bindings bindings) s
  | withBody {bindings body s values s'}
      (done : evalBindings j bindings host s = (.ok values, s')) :
      Starts host j (.statement (.bind bindings body)) s (.nodes body)
        { s' with scopes := Table.ofList values :: s'.scopes }
  | assigned {name e s} : Starts host j (.statement (.assign name e)) s (.expr e) s
  | escaping {enabled body s} :
      Starts host j (.statement (.escaping enabled body)) s (.nodes body)
        { s with autoescape := enabled }
  | filtering {filters body s} :
      Starts host j (.statement (.filtering filters body)) s (.nodes body) { s with out := .empty }
  | filteringText {filters body s text s'}
      (done : capture (execNodes j body) host s = (.ok text, s')) :
      Starts host j (.statement (.filtering filters body)) s (.filters (.safe text) filters) s'
  | spaceless {body s} :
      Starts host j (.statement (.spaceless body)) s (.nodes body) { s with out := .empty }
  | ratioValue {value most width target s} :
      Starts host j (.statement (.ratio value most width target)) s (.expr value) s
  | ratioMost {value most width target s x s'}
      (done : ratioNumber j "value" value host s = (.ok x, s')) :
      Starts host j (.statement (.ratio value most width target)) s (.expr most) s'
  | ratioWidth {value most width target s x s' y s''}
      (done : ratioNumber j "value" value host s = (.ok x, s'))
      (done' : ratioNumber j "maximum" most host s' = (.ok y, s'')) :
      Starts host j (.statement (.ratio value most width target)) s (.expr width) s''
  | custom {steps s} : Starts host j (.statement (.custom steps)) s (.steps steps) s
  | ran {body steps s} : Starts host j (.steps (.run body :: steps)) s (.nodes body) s
  | captured {key body steps s} :
      Starts host j (.steps (.captured key body :: steps)) s (.nodes body) { s with out := .empty }
  | shown {key e steps s} : Starts host j (.steps (.shown key e :: steps)) s (.expr e) s
  | nextStep {step steps s s'} (done : step.exec j host s = (.ok (), s')) :
      Starts host j (.steps (step :: steps)) s (.steps steps) s'
  -- Bindings and lists.
  | binding {name e rest s} : Starts host j (.bindings ((name, e) :: rest)) s (.expr e) s
  | nextBinding {name e rest s v s'} (done : e.eval j host s = (.ok v, s')) :
      Starts host j (.bindings ((name, e) :: rest)) s (.bindings rest) s'
  | item {e es s} : Starts host j (.exprs (e :: es)) s (.expr e) s
  | nextItem {e es s v s'} (done : e.eval j host s = (.ok v, s')) :
      Starts host j (.exprs (e :: es)) s (.exprs es) s'
  -- Expressions.
  | array {items s} : Starts host j (.expr (.array items)) s (.exprs items) s
  | path {name segments p s} :
      Starts host j (.expr (.path name segments p)) s (.path (s.lookup name) segments) s
  | operand {op e p s} : Starts host j (.expr (.unary op e p)) s (.expr e) s
  | left {op a b p s} : Starts host j (.expr (.binary op a b p)) s (.expr a) s
  | right {op a b p s v s'} (done : a.eval j host s = (.ok v, s'))
      (needed : (op = .and → v.isTruthy) ∧ (op = .or → ¬v.isTruthy)) :
      Starts host j (.expr (.binary op a b p)) s (.expr b) s'
  | filtered {e filters s} : Starts host j (.expr (.filtered e filters)) s (.expr e) s
  | filters {e filters s v s'} (done : e.eval j host s = (.ok v, s')) :
      Starts host j (.expr (.filtered e filters)) s (.filters v filters) s'
  | filterArgument {name e p f rest v s} :
      Starts host j (.filters v (.mk name (some e) p f :: rest)) s (.expr e) s
  | nextFilter {name p f rest v s w s'} (done : applyFilter name p f v none host s = (.ok w, s')) :
      Starts host j (.filters v (.mk name none p f :: rest)) s (.filters w rest) s'
  | nextFilterWith {name e p f rest v s arg s' w s''} (done : e.eval j host s = (.ok arg, s'))
      (done' : applyFilter name p f v (some arg) host s' = (.ok w, s'')) :
      Starts host j (.filters v (.mk name (some e) p f :: rest)) s (.filters w rest) s''
  -- The segments of a path.
  | arguments {f args rest s} :
    Starts host j (.path (.func f) (.call args :: rest)) s (.exprs args) s
  | called {f args rest s values s' w s''} (done : evalAll j args host s = (.ok values, s'))
      (done' : callFunction j f values host s' = (.ok w, s'')) :
      Starts host j (.path (.func f) (.call args :: rest)) s (.path w rest) s''
  | methodArguments {v name args rest s r s'}
      (done : evalPath.implicitCall j v host s = (.ok (.record r), s')) :
      Starts host j (.path v (.attr name :: .call args :: rest)) s (.exprs args) s'
  | methodCalled {v name args rest s r s' values s'' w s₃}
      (done : evalPath.implicitCall j v host s = (.ok (.record r), s'))
      (done' : evalAll j args host s' = (.ok values, s''))
      (done'' : callMethod r name values host s'' = (.ok w, s₃)) :
      Starts host j (.path v (.attr name :: .call args :: rest)) s (.path w rest) s₃
  | member {v name rest s w s' x} (done : evalPath.implicitCall j v host s = (.ok w, s'))
      (noMethod : ∀ r args rest', w = .record r → rest ≠ .call args :: rest')
      (member : w.member name = .ok x) :
      Starts host j (.path v (.attr name :: rest)) s (.path x rest) s'
  | index {v n rest s w s' x} (done : evalPath.implicitCall j v host s = (.ok w, s'))
      (item : w.item n = .ok x) :
      Starts host j (.path v (.index n :: rest)) s (.path x rest) s'
  | key {v e rest s w s'} (done : evalPath.implicitCall j v host s = (.ok w, s'))
      (some : w ≠ .nil) :
      Starts host j (.path v (.subscript e :: rest)) s (.expr e) s'
  | subscript {v e rest s w s' key s'' x} (done : evalPath.implicitCall j v host s = (.ok w, s'))
      (some : w ≠ .nil) (done' : e.eval j host s' = (.ok key, s''))
      (entry : w.subscript key = .ok x) :
      Starts host j (.path v (.subscript e :: rest)) s (.path x rest) s''

/-- The points of a task that starts in some state: what it comes to in any number of turns. -/
inductive Reaches (host : Host) (j : Jumps) (task : Task) (s : State) : Task → State → Prop where
  | start : Reaches host j task s task s
  | next {task' s' task'' s''} (reached : Reaches host j task s task' s')
      (starts : Starts host j task' s' task'' s'') : Reaches host j task s task'' s''

end Task

/-! ### What all points have in common -/

/-- The two states resolve blocks along the same templates, inside the same blocks. -/
structure State.SameFrames (s s' : State) : Prop where
  chain : s'.chain = s.chain
  blocks : s'.blocks = s.blocks

namespace State.SameFrames

theorem refl (s : State) : s.SameFrames s := ⟨rfl, rfl⟩

theorem trans {s t u : State} (hst : s.SameFrames t) (htu : t.SameFrames u) : s.SameFrames u :=
  ⟨htu.chain.trans hst.chain, htu.blocks.trans hst.blocks⟩

/-- What keeps balance leaves the frames as they are, whatever it ends with. -/
theorem of_run {host : Host} {α : Type} {r : Render α} (hr : Keeps host State.Balanced r)
    {s s' : State} {result : Except Halt α} (h : r host s = (result, s')) : s.SameFrames s' := by
  have hs := hr s
  rw [h] at hs
  exact ⟨hs.chain, hs.blocks⟩

end State.SameFrames

section Frames

variable {host : Host} {j : Jumps} (hhost : host.Balanced) (hj : j.Keep host State.Balanced)
include hhost hj

/-- Each turn that a render takes leaves the frames as they are. -/
theorem sameFrames_of_starts {task task' : Task} {s s' : State}
    (h : Task.Starts host j task s task' s') : s.SameFrames s' := by
  have hr := respected_balanced hhost
  have heval e {s s' : State} {result} (h : Expr.eval j e host s = (result, s')) :
      s.SameFrames s' := .of_run (keeps_eval hr hj e) h
  have hcall v {s s' : State} {result} (h : evalPath.implicitCall j v host s = (result, s')) :
      s.SameFrames s' := .of_run (keeps_implicitCall hr (keeps_callFunction hr hj) v) h
  have hall es {s s' : State} {result} (h : evalAll j es host s = (result, s')) :
      s.SameFrames s' := .of_run (keeps_evalAll hr (keeps_callFunction hr hj) es) h
  have hratio what e {s s' : State} {result} (h : ratioNumber j what e host s = (result, s')) :
      s.SameFrames s' := .of_run (keeps_ratioNumber hr (keeps_eval hr hj) what e) h
  cases h with
  | nextNode done => exact .of_run (keeps_exec hr hj _) done
  | chosen done _ | nextBranch done _ | rhs done | empty done _ | visits done _
  | nextCandidate done _ | nextBinding done | nextItem done | right done _ | filters done =>
    exact heval _ done
  | compared done done' _ | notCompared done done' _ => exact (heval _ done).trans (heval _ done')
  | nextVisit done => exact .of_run (keeps_inScope hr _ (keeps_execNodes hr hj _)) done
  | includeBindings done => exact .of_run (keeps_find hr (keeps_eval hr hj) _ _ _) done
  | withBody done =>
    have hbindings := State.SameFrames.of_run (keeps_evalBindings hr (keeps_eval hr hj) _) done
    exact ⟨hbindings.chain, hbindings.blocks⟩
  | filteringText done => exact .of_run (keeps_capture hr (keeps_execNodes hr hj _)) done
  | ratioMost done => exact hratio _ _ done
  | ratioWidth done done' => exact (hratio _ _ done).trans (hratio _ _ done')
  | nextStep done => exact .of_run (keeps_step hr hj _) done
  | nextFilter done => exact .of_run (keeps_applyFilter hr _ _ _ _ _) done
  | nextFilterWith done done' =>
    exact (heval _ done).trans (.of_run (keeps_applyFilter hr _ _ _ _ _) done')
  | called done done' =>
    exact (hall _ done).trans (.of_run (keeps_callFunction hr hj _ _) done')
  | methodArguments done | member done _ _ | index done _ | key done _ => exact hcall _ done
  | methodCalled done done' done'' =>
    exact (hcall _ done).trans <| (hall _ done').trans (.of_run (keeps_callMethod hr _ _ _) done'')
  | subscript done _ done' _ => exact (hcall _ done).trans (heval _ done')
  | _ => exact ⟨rfl, rfl⟩

/-- At every point of a task the frames are those that it started with. -/
theorem sameFrames_of_reaches {task task' : Task} {s s' : State}
    (h : Task.Reaches host j task s task' s') : s.SameFrames s' := by
  induction h with
  | start => exact .refl s
  | next _ starts ih => exact ih.trans (sameFrames_of_starts hhost hj starts)

end Frames

end Stencil
