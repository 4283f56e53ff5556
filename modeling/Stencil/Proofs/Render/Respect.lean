import Stencil.Proofs.Keeping
import Stencil.Render.Exec

/-!
# Relations that renders respect

A render is made of few steps that touch the state, and everything that a tag changes for its body
is set back behind it. A relation between states that these steps respect therefore holds between
the states before and after any expression and any nodes, however they end (`keeps_eval`,
`keeps_execNodes`), and so between those of any jump (`keeps_upTo`).
-/

namespace Stencil

/-- A relation between the states before and after a step that the steps of a render respect, apart
from those that bind a name or enter a chain of templates or a block. -/
structure PlainRespected (host : Host) (R : State → State → Prop) : Prop where
  refl : ∀ s, R s s
  trans : ∀ {s t u}, R s t → R t u → R s u
  /-- Output, also into a sink that is put aside later. -/
  output : ∀ s out, R s { s with out }
  /-- Loading a template. -/
  load : ∀ s l referrer name, s.set = some l →
    R s { s with set := some ((Library.load referrer name).run l).run.2 }
  /-- A function of the host. -/
  function : ∀ key data args s, R s (host.function key data args s).2
  inScope : ∀ {s t} scope, R { s with scopes := scope :: s.scopes } t →
    R s { t with scopes := t.scopes.tail }
  isolated : ∀ {s t} scopes, R { s with scopes } t → R s { t with scopes := s.scopes }
  autoescape : ∀ {s t} enabled, R { s with autoescape := enabled } t →
    R s { t with autoescape := s.autoescape }
  deeper : ∀ {s t}, R { s with depth := s.depth + 1 } t → R s { t with depth := t.depth - 1 }

/-- A relation between the states before and after a step that the steps of a render respect. -/
structure Respected (host : Host) (R : State → State → Prop) :
    Prop extends PlainRespected host R where
  /-- Binding a name in the innermost scope. -/
  bind : ∀ s name v, R s (s.bind name v)
  chain : ∀ {s t} chain, R { s with chain } t → R s { t with chain := s.chain }
  block : ∀ {s t} overridden, R { s with blocks := overridden :: s.blocks } t →
    R s { t with blocks := t.blocks.tail }

instance {host : Host} {R : State → State → Prop} :
    Coe (Respected host R) (PlainRespected host R) := ⟨Respected.toPlainRespected⟩

namespace Render

/-- The states before and after `r` are related, however it ends. -/
def Keeps {α : Type} (host : Host) (R : State → State → Prop) (r : Render α) : Prop :=
  ∀ s, R s (r host s).2

end Render

open Render

variable {host : Host} {R : State → State → Prop} {α β : Type}

/-! ## Steps -/

section Steps

variable (h : PlainRespected host R)
include h

theorem keeps_pure (a : α) : Keeps host R (pure a : Render α) := fun s => h.refl s

theorem keeps_throw (e : Halt) : Keeps host R (throw e : Render α) := fun s => h.refl s

theorem keeps_fail (fault : RunFault) : Keeps host R (fail fault : Render α) := fun s => h.refl s

theorem keeps_get : Keeps host R (get : Render State) := fun s => h.refl s

theorem keeps_read : Keeps host R (read : Render Host) := fun s => h.refl s

theorem keeps_bind {r : Render α} {f : α → Render β} (hr : Keeps host R r)
    (hf : ∀ a, Keeps host R (f a)) : Keeps host R (r >>= f) := by
  intro s
  rw [run_bind]
  split
  · exact h.trans (hr s) (hf _ _)
  · exact hr s

omit h in
theorem keeps_modify {f : State → State} (hf : ∀ s, R s (f s)) :
    Keeps host R (modify f : Render Unit) := fun s => hf s

theorem keeps_ofExcept (r : Except Error α) : Keeps host R (Halt.ofExcept r : Render α) := by
  cases r with
  | ok a => exact keeps_pure h a
  | error e => exact keeps_throw h (.error e)

theorem keeps_ofFault (r : Except RunFault α) : Keeps host R (ofFault r) := by
  cases r with
  | ok a => exact keeps_pure h a
  | error fault => exact keeps_fail h fault

omit h in
theorem keeps_located (p : Position) {r : Render α} (hr : Keeps host R r) :
    Keeps host R (located p r) := by
  intro s
  have hs := hr s
  unfold located
  split <;> rename_i heq <;> rwa [heq] at hs

omit h in
theorem keeps_attempt {r : Render α} (hr : Keeps host R r) : Keeps host R (attempt r) := by
  intro s
  have hs := hr s
  unfold attempt
  split <;> rename_i heq <;> rwa [heq] at hs

theorem keeps_inScope (bindings : List (String × Value)) {r : Render α} (hr : Keeps host R r) :
    Keeps host R (inScope bindings r) := fun _ => h.inScope _ (hr _)

theorem keeps_isolated (bindings : List (String × Value)) {r : Render α} (hr : Keeps host R r) :
    Keeps host R (isolated bindings r) := fun _ => h.isolated _ (hr _)

theorem keeps_withAutoescape (enabled : Bool) {r : Render α} (hr : Keeps host R r) :
    Keeps host R (withAutoescape enabled r) := fun _ => h.autoescape _ (hr _)

theorem keeps_deeper (what : String) {r : Render α} (hr : Keeps host R r) :
    Keeps host R (deeper what r) := by
  refine keeps_bind h (keeps_get h) fun s => ?_
  split
  · exact keeps_fail h _
  · exact fun _ => h.deeper (hr _)

theorem keeps_write (text : String) : Keeps host R (write text) := fun s => h.output s _

theorem keeps_capture {r : Render Unit} (hr : Keeps host R r) : Keeps host R (capture r) :=
  fun s => h.trans (h.output s .empty) (h.trans (hr _) (h.output _ s.out))

theorem keeps_writeValue (v : Value) : Keeps host R (writeValue v) :=
  keeps_bind h (keeps_get h) fun _ => keeps_write h _

theorem keeps_requireSet : Keeps host R requireSet := by
  refine keeps_bind h (keeps_get h) fun s => ?_
  split
  · exact keeps_fail h _
  · exact keeps_pure h _

theorem keeps_load (referrer : Option String) (name : String) :
    Keeps host R (load referrer name) := by
  intro s
  unfold load
  split
  · exact h.refl s
  · exact h.load s _ referrer name ‹_›

theorem keeps_callHost (key : String) (data : Value) (args : List Value) :
    Keeps host R (callHost key data args) := by
  intro s
  have hs := h.function key data args s
  unfold callHost
  split <;> rename_i heq <;> rwa [heq] at hs

end Steps

section Changes

variable (h : Respected host R)
include h

theorem keeps_assign (name : String) (v : Value) :
    Keeps host R (modify (·.bind name v) : Render Unit) :=
  keeps_modify fun s => h.bind s name v

theorem keeps_withChain (chain : List Template) {r : Render α} (hr : Keeps host R r) :
    Keeps host R (withChain chain r) := fun _ => h.chain _ (hr _)

theorem keeps_withBlock (overridden : List Body) {r : Render α} (hr : Keeps host R r) :
    Keeps host R (withBlock overridden r) := fun _ => h.block _ (hr _)

end Changes

/-! ## Expressions -/

/-- The jumps keep the relation. -/
structure Jumps.Keep (host : Host) (R : State → State → Prop) (j : Jumps) : Prop where
  run : ∀ nodes, Keeps host R (j.run nodes)
  runOverridden : ∀ nodes, Keeps host R (j.runOverridden nodes)
  eval : ∀ e, Keeps host R (j.eval e)

variable {j : Jumps}

section Calls

theorem keeps_bindParameters (h : PlainRespected host R) (heval : ∀ e, Keeps host R (j.eval e))
    (params : List (String × Option Expr)) (args : List Value) :
    Keeps host R (bindParameters j params args) := by
  induction params, args using bindParameters.induct with
  | case1 => exact keeps_pure h []
  | case2 name default params v args ih =>
    unfold bindParameters
    exact keeps_bind h ih fun _ => keeps_pure h _
  | case3 name params ih =>
    unfold bindParameters
    exact keeps_bind h ih fun _ => keeps_pure h _
  | case4 name e params ih =>
    unfold bindParameters
    exact keeps_bind h (heval e) fun _ => keeps_bind h ih fun _ => keeps_pure h _

variable (h : Respected host R) (hj : j.Keep host R)
include h hj

theorem keeps_callMacro (m : Macro) (args : List Value) : Keeps host R (callMacro j m args) := by
  refine keeps_deeper h _ (keeps_bind h (keeps_bindParameters h hj.eval _ _) fun bindings => ?_)
  have hbody := keeps_inScope h bindings (keeps_capture h (hj.run m.body))
  exact keeps_bind h hbody fun _ => keeps_pure h _

theorem keeps_renderSuper : Keeps host R (renderSuper j) := by
  refine keeps_bind h (keeps_get h) fun s => ?_
  split
  · refine keeps_bind h (keeps_withBlock h _ (keeps_capture h (hj.runOverridden _))) fun _ => ?_
    exact keeps_pure h _
  · exact keeps_pure h _

theorem keeps_callFunction (f : Function) (args : List Value) :
    Keeps host R (callFunction j f args) := by
  refine keeps_bind h (keeps_ofFault h _) fun _ => ?_
  split
  · exact keeps_callMacro h hj _ _
  · exact keeps_renderSuper h hj
  · exact keeps_callHost h _ _ _

end Calls

section Operations

variable (h : PlainRespected host R)
include h

theorem keeps_implicitCall (hcall : ∀ f args, Keeps host R (callFunction j f args)) (v : Value) :
    Keeps host R (evalPath.implicitCall j v) := by
  unfold evalPath.implicitCall
  split
  · split
    · exact hcall _ _
    · exact keeps_pure h _
  · exact keeps_pure h _

theorem keeps_callMethod (r : HostRecord) (name : String) (args : List Value) :
    Keeps host R (callMethod r name args) := by
  unfold callMethod
  split
  · exact keeps_bind h (keeps_read h) fun _ => keeps_ofExcept h _
  · exact keeps_fail h _

theorem keeps_applyFilter (name : String) (p : Position) (f : FilterRef) (v : Value)
    (arg : Option Value) : Keeps host R (applyFilter name p f v arg) := by
  have hresult (result) : Keeps host R (filterResult name p result) := by
    unfold filterResult
    split
    · exact keeps_pure h _
    · exact keeps_throw h _
    · exact keeps_throw h _
  unfold applyFilter
  split
  · split
    · exact keeps_pure h _
    · exact keeps_throw h _
    · exact hresult _
  · exact keeps_bind h (keeps_read h) fun _ => hresult _

end Operations

/-! Evaluating an expression touches the state by calls alone. -/

mutual

theorem keeps_eval_of_call (h : PlainRespected host R)
    (hcall : ∀ f args, Keeps host R (callFunction j f args)) :
    (e : Expr) → Keeps host R (e.eval j)
  | .literal l => keeps_pure h l.value
  | .array items => keeps_bind h (keeps_evalAll h hcall items) fun _ => keeps_pure h _
  | .path name segments p =>
    keeps_located p
      (keeps_bind h (keeps_get h) fun s => keeps_evalPath h hcall segments (s.lookup name))
  | .unary op e p =>
    keeps_bind h (keeps_eval_of_call h hcall e) fun _ => keeps_located p (keeps_ofFault h _)
  | .binary op a b p => by
    refine keeps_bind h (keeps_eval_of_call h hcall a) fun v => ?_
    have hb := keeps_eval_of_call h hcall b
    split
    · split
      · exact keeps_bind h hb fun _ => keeps_pure h _
      · exact keeps_pure h _
    · split
      · exact keeps_pure h _
      · exact keeps_bind h hb fun _ => keeps_pure h _
    · exact keeps_bind h hb fun _ => keeps_located p (keeps_ofFault h _)
  | .filtered e filters =>
    keeps_bind h (keeps_eval_of_call h hcall e) fun v => keeps_evalFilters h hcall filters v

theorem keeps_evalAll (h : PlainRespected host R)
    (hcall : ∀ f args, Keeps host R (callFunction j f args)) :
    (es : List Expr) → Keeps host R (evalAll j es)
  | [] => keeps_pure h []
  | e :: es =>
    keeps_bind h (keeps_eval_of_call h hcall e) fun _ =>
      keeps_bind h (keeps_evalAll h hcall es) fun _ => keeps_pure h _

theorem keeps_evalPath (h : PlainRespected host R)
    (hcall : ∀ f args, Keeps host R (callFunction j f args)) :
    (segments : List Segment) → (v : Value) →
    Keeps host R (evalPath j v segments)
  | [], v => keeps_implicitCall h hcall v
  | .call args :: rest, v => by
    rw [evalPath.eq_def]
    dsimp only
    split
    · exact keeps_pure h _
    · refine keeps_bind h (keeps_evalAll h hcall args) fun args => ?_
      exact keeps_bind h (hcall _ args) fun w => keeps_evalPath h hcall rest w
    · exact keeps_fail h _
  | .attr name :: rest, v => by
    have hrest := keeps_evalPath h hcall rest
    match rest, hrest with
    | .call args :: rest, hrest =>
      rw [evalPath]
      refine keeps_bind h (keeps_implicitCall h hcall v) fun w => ?_
      split
      · exact keeps_pure h _
      · refine keeps_bind h (keeps_evalAll h hcall args) fun args => ?_
        exact keeps_bind h (keeps_callMethod h _ name args) fun w => keeps_evalPath h hcall rest w
      · exact keeps_bind h (keeps_ofFault h _) fun w => hrest w
    | [], hrest | .attr _ :: _, hrest | .index _ :: _, hrest | .subscript _ :: _, hrest =>
      rw [evalPath]
      · refine keeps_bind h (keeps_implicitCall h hcall v) fun w => ?_
        split
        · exact keeps_pure h _
        · exact keeps_bind h (keeps_ofFault h _) fun w => hrest w
      · nofun
  | .index n :: rest, v => by
    rw [evalPath]
    refine keeps_bind h (keeps_implicitCall h hcall v) fun w => ?_
    split
    · exact keeps_pure h _
    · exact keeps_bind h (keeps_ofFault h _) fun w => keeps_evalPath h hcall rest w
  | .subscript key :: rest, v => by
    rw [evalPath]
    refine keeps_bind h (keeps_implicitCall h hcall v) fun w => ?_
    split
    · exact keeps_pure h _
    · refine keeps_bind h (keeps_eval_of_call h hcall key) fun key => ?_
      exact keeps_bind h (keeps_ofFault h _) fun w => keeps_evalPath h hcall rest w

theorem keeps_evalFilters (h : PlainRespected host R)
    (hcall : ∀ f args, Keeps host R (callFunction j f args)) :
    (filters : List FilterCall) → (v : Value) →
    Keeps host R (evalFilters j v filters)
  | [], v => keeps_pure h v
  | .mk name none p f :: rest, v =>
    keeps_bind h (keeps_applyFilter h name p f v none) fun w => keeps_evalFilters h hcall rest w
  | .mk name (some e) p f :: rest, v =>
    keeps_bind h (keeps_eval_of_call h hcall e) fun arg =>
      keeps_bind h (keeps_applyFilter h name p f v (some arg)) fun w =>
        keeps_evalFilters h hcall rest w

end

theorem keeps_eval (h : Respected host R) (hj : j.Keep host R) (e : Expr) :
    Keeps host R (e.eval j) := keeps_eval_of_call h (keeps_callFunction h hj) e

section Trees

section Values

variable (h : PlainRespected host R) (heval : ∀ e : Expr, Keeps host R (e.eval j))
include h

theorem keeps_templateName (fault : String → RunFault) (v : Value) :
    Keeps host R (templateName fault v) := by
  unfold templateName
  split
  · exact keeps_pure h _
  · exact keeps_fail h _

include heval

theorem keeps_evalBindings (bindings : List (String × Expr)) :
    Keeps host R (evalBindings j bindings) := by
  induction bindings with
  | nil => exact keeps_pure h []
  | cons binding rest ih =>
    exact keeps_bind h (heval binding.2) fun _ => keeps_bind h ih fun _ => keeps_pure h _

theorem keeps_firstTrue (es : List Expr) : Keeps host R (firstTrue j es) := by
  induction es with
  | nil => exact keeps_pure h none
  | cons e es ih =>
    refine keeps_bind h (heval e) fun v => ?_
    split
    · exact keeps_pure h _
    · exact ih

theorem keeps_ratioNumber (what : String) (e : Expr) : Keeps host R (ratioNumber j what e) := by
  refine keeps_bind h (heval e) fun v => ?_
  split
  · exact keeps_pure h _
  · exact keeps_fail h _

theorem keeps_find (target : Target) (base : String) (ifExists : Bool) :
    Keeps host R (target.find? j base ifExists) := by
  cases target with
  | linked t => exact keeps_pure h _
  | named e =>
    refine keeps_bind h (heval e) fun v => ?_
    refine keeps_bind h (keeps_templateName h _ v) fun name => ?_
    refine keeps_bind h (keeps_requireSet h) fun _ => ?_
    refine keeps_bind h (keeps_attempt (keeps_load h _ name)) fun result => ?_
    split
    · exact keeps_pure h _
    · split
      · exact keeps_pure h _
      · exact keeps_throw h _

/-! ## Templates -/

theorem keeps_parent (t : Template) : Keeps host R (t.parent? j) := by
  unfold Template.parent?
  split
  · exact keeps_pure h _
  · exact keeps_pure h _
  · rename_i e p _
    refine keeps_bind h (keeps_located p ?_) fun name => ?_
    · exact keeps_bind h (heval e) fun v => keeps_templateName h _ v
    refine keeps_bind h (keeps_requireSet h) fun _ => keeps_located p ?_
    refine keeps_bind h (keeps_attempt (keeps_load h _ name)) fun result => ?_
    split
    · exact keeps_pure h _
    · exact keeps_throw h _

theorem keeps_ancestry (youngest : Template) (limit room : Nat) (oldest : Template)
    (chain : List Template) : Keeps host R (ancestry j youngest limit room oldest chain) := by
  induction room generalizing oldest chain with
  | zero =>
    unfold ancestry
    refine keeps_bind h (keeps_parent h heval oldest) fun parent => ?_
    split
    · exact keeps_pure h _
    · split <;> exact keeps_fail h _
  | succ room ih =>
    unfold ancestry
    refine keeps_bind h (keeps_parent h heval oldest) fun parent => ?_
    split
    · exact keeps_pure h _
    · split
      · exact keeps_fail h _
      · exact ih _ _

theorem keeps_chain (t : Template) : Keeps host R (t.chain j) :=
  keeps_bind h (keeps_get h) fun _ => keeps_ancestry h heval _ _ _ _ _

end Values

variable (h : Respected host R) (hj : j.Keep host R)
include h hj

theorem keeps_render (t : Template) : Keeps host R (t.render j) := by
  refine keeps_bind h (keeps_chain h (keeps_eval h hj) t) fun chain => ?_
  split
  · exact keeps_pure h _
  · exact keeps_withChain h _ (hj.run _)

theorem keeps_renderBlock (name : String) {own : Render Unit} (hown : Keeps host R own) :
    Keeps host R (renderBlock j name own) := by
  refine keeps_bind h (keeps_get h) fun s => ?_
  split
  · exact keeps_withBlock h _ hown
  · exact keeps_withBlock h _ (hj.run _)

end Trees

/-! ## Nodes -/

/-- Where sorting does not break down its result is what a loop visits. -/
theorem run_visitsOf {host : Host} {s : State} {v : Value} {two reversed sorted : Bool}
    {visits : List (Value × Value)}
    (h : Loop.visits host.sorter v two reversed sorted = some visits) :
    visitsOf v two reversed sorted host s = (.ok visits, s) := by
  unfold visitsOf
  have hhost : (read : Render Host) host s = (.ok host, s) := rfl
  rw [run_bind_of_ok hhost, h]
  rfl

theorem keeps_visitsOf (h : PlainRespected host R) (v : Value) (two reversed sorted : Bool) :
    Keeps host R (visitsOf v two reversed sorted) := by
  refine keeps_bind h (keeps_read h) fun _ => ?_
  split
  · exact keeps_pure h _
  · exact keeps_throw h _

theorem keeps_forEach (h : PlainRespected host R) (first : String) (second : Option String)
    (parent : Value) (total : Nat) {body : Render Unit} (hbody : Keeps host R body) (i : Nat)
    (visits : List (Value × Value)) :
    Keeps host R (forEach first second parent total body i visits) := by
  induction visits generalizing i with
  | nil => exact keeps_pure h ()
  | cons visit visits ih => exact keeps_bind h (keeps_inScope h _ hbody) fun _ => ih (i + 1)

theorem keeps_writeAnswer (h : PlainRespected host R) (answer : Except Error String) :
    Keeps host R (writeAnswer answer) :=
  keeps_bind h (keeps_ofExcept h answer) fun text => keeps_write h text

theorem keeps_import (h : Respected host R) (macros : List (String × Macro)) :
    Keeps host R (modify fun s =>
      macros.foldl (fun s e => s.bind e.1 (.func (.ofMacro e.2))) s : Render Unit) := by
  refine keeps_modify fun s => ?_
  induction macros generalizing s with
  | nil => exact h.refl s
  | cons e macros ih => exact h.trans (h.bind s _ _) (ih _)

mutual

theorem keeps_execNodes (h : Respected host R) (hj : j.Keep host R) :
    (nodes : List Node) → Keeps host R (execNodes j nodes)
  | [] => keeps_pure h ()
  | n :: ns => keeps_bind h (keeps_exec h hj n) fun _ => keeps_execNodes h hj ns

theorem keeps_exec (h : Respected host R) (hj : j.Keep host R) :
    (n : Node) → Keeps host R (n.exec j)
  | .text s => keeps_write h s
  | .output p e =>
    keeps_located p (keeps_bind h (keeps_eval h hj e) fun v => keeps_writeValue h v)
  | .tag _ p statement => keeps_located p (keeps_statement h hj statement)

theorem keeps_statement (h : Respected host R) (hj : j.Keep host R) :
    (statement : Statement) → Keeps host R (statement.exec j)
  | .branch branches otherwise =>
    keeps_execBranches h hj (keeps_execOptional h hj otherwise) branches
  | .compare lhs rhs negated body otherwise => by
    refine keeps_bind h (keeps_eval h hj lhs) fun a => ?_
    refine keeps_bind h (keeps_eval h hj rhs) fun b => ?_
    split
    · exact keeps_execNodes h hj body
    · exact keeps_execOptional h hj otherwise
  | .loop first second source reversed sorted body empty => by
    refine keeps_bind h (keeps_eval h hj source) fun v => ?_
    refine keeps_bind h (keeps_visitsOf h.toPlainRespected v _ _ _) fun visits => ?_
    split
    · exact keeps_execOptional h hj empty
    · refine keeps_bind h (keeps_get h) fun s => ?_
      exact keeps_forEach h first second _ _ (keeps_execNodes h hj body) 0 _
  | .cycle values target silent => by
    refine keeps_bind h (keeps_get h) fun s => ?_
    refine keeps_bind h (keeps_eval h hj _) fun v => ?_
    have hwrite : Keeps host R (if !silent then Render.writeValue v else pure ()) := by
      split
      · exact keeps_writeValue h v
      · exact keeps_pure h ()
    cases target with
    | none => exact hwrite
    | some name => exact keeps_bind h (keeps_assign h name v) fun _ => hwrite
  | .firstOf values => by
    refine keeps_bind h (keeps_firstTrue h (keeps_eval h hj) values) fun found => ?_
    split
    · exact keeps_writeValue h _
    · exact keeps_pure h ()
  | .block name body => keeps_renderBlock h hj name (keeps_execNodes h hj body)
  | .includes target base bindings only ifExists => by
    refine keeps_bind h (keeps_find h (keeps_eval h hj) target base ifExists) fun found => ?_
    split
    · refine keeps_bind h (keeps_evalBindings h (keeps_eval h hj) bindings) fun values =>
        keeps_deeper h _ ?_
      split
      · exact keeps_isolated h values (keeps_render h hj _)
      · exact keeps_inScope h values (keeps_render h hj _)
    · exact keeps_pure h ()
  | .imports macros => keeps_import h macros
  | .bind bindings body =>
    keeps_bind h (keeps_evalBindings h (keeps_eval h hj) bindings) fun values =>
      keeps_inScope h values (keeps_execNodes h hj body)
  | .assign name e =>
    keeps_bind h (keeps_eval h hj e) fun v => keeps_assign h name v
  | .define m => keeps_assign h _ _
  | .escaping enabled body => keeps_withAutoescape h enabled (keeps_execNodes h hj body)
  | .filtering filters body =>
    keeps_bind h (keeps_capture h (keeps_execNodes h hj body)) fun text =>
      keeps_bind h (keeps_evalFilters h (keeps_callFunction h hj) filters _) fun v =>
        keeps_writeValue h v
  | .spaceless body =>
    keeps_bind h (keeps_capture h (keeps_execNodes h hj body)) fun _ => keeps_write h _
  | .nothing => keeps_pure h ()
  | .now format fake => by
    refine keeps_bind h (keeps_read h) fun _ => ?_
    dsimp only
    split
    · exact keeps_writeValue h _
    · exact keeps_fail h _
  | .write text => keeps_write h text
  | .ratio value most width target => by
    refine keeps_bind h (keeps_ratioNumber h (keeps_eval h hj) _ value) fun value => ?_
    refine keeps_bind h (keeps_ratioNumber h (keeps_eval h hj) _ most) fun most => ?_
    refine keeps_bind h (keeps_ratioNumber h (keeps_eval h hj) _ width) fun width => ?_
    dsimp only
    split
    · exact keeps_assign h _ _
    · exact keeps_write h _
  | .custom steps => keeps_execSteps h hj steps

theorem keeps_execSteps (h : Respected host R) (hj : j.Keep host R) :
    (steps : List Step) → Keeps host R (execSteps j steps)
  | [] => keeps_pure h ()
  | step :: steps => keeps_bind h (keeps_step h hj step) fun _ => keeps_execSteps h hj steps

theorem keeps_step (h : Respected host R) (hj : j.Keep host R) :
    (step : Step) → Keeps host R (step.exec j)
  | .write text => keeps_write h text
  | .run body => keeps_execNodes h hj body
  | .captured _ body =>
    keeps_bind h (keeps_attempt (keeps_capture h (keeps_execNodes h hj body))) fun _ =>
      keeps_bind h (keeps_read h) fun _ => keeps_writeAnswer h _
  | .shown _ e =>
    keeps_bind h (keeps_eval h hj e) fun _ =>
      keeps_bind h (keeps_read h) fun _ => keeps_writeAnswer h _

theorem keeps_execBranches (h : Respected host R) (hj : j.Keep host R) {otherwise : Render Unit}
    (ho : Keeps host R otherwise) :
    (branches : List (Expr × List Node)) → Keeps host R (execBranches j otherwise branches)
  | [] => ho
  | ⟨condition, body⟩ :: branches => by
    refine keeps_bind h (keeps_eval h hj condition) fun v => ?_
    split
    · exact keeps_execNodes h hj body
    · exact keeps_execBranches h hj ho branches

theorem keeps_execOptional (h : Respected host R) (hj : j.Keep host R) :
    (body : Option (List Node)) → Keeps host R (execOptional j body)
  | none => keeps_pure h ()
  | some body => keeps_execNodes h hj body

end

/-- The jumps of a render keep every relation that its steps respect, however few may be nested. -/
theorem keeps_upTo (h : Respected host R) (fuel : Nat) : (Jumps.upTo fuel).Keep host R := by
  induction fuel with
  | zero =>
    exact ⟨fun _ => keeps_throw h _, fun _ => keeps_throw h _, fun _ => keeps_throw h _⟩
  | succ fuel ih =>
    exact ⟨keeps_execNodes h ih, keeps_execNodes h ih, keeps_eval h ih⟩

/-- Executing a template keeps every relation that its steps respect. -/
theorem keeps_execute (h : Respected host R) (t : Template) (set : Option Library)
    (context : Bindings) (out : Sink) :
    R (State.start set context t.options out) (t.execute host set context out).2 := by
  have hrender := keeps_render h (keeps_upTo h jumpDepth) t
    (State.start set context t.options out)
  unfold Template.execute
  dsimp only
  generalize t.render (.upTo jumpDepth) host _ = ended at hrender ⊢
  split
  · exact h.refl _
  · exact hrender

end Stencil
