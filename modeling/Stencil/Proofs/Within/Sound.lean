import Stencil.Proofs.Within.Carry
import Stencil.Proofs.Within.Stages

/-!
# What happens at a stage

At each stage of a render, what is executed stands in a template that takes part, and so does what
the values at hand can call. So an error is located, if it is, in such a template.
-/

namespace Stencil

/-!
## Steps

A step that is run in one state. What it gives, the error with which it fails and the state that it
leaves are within the vocabulary, and the blocks are as they were.
-/

section Steps

variable {α β : Type} {host : Host} {V : Vocabulary} {known : Library → Prop} {s t : State}
  {A A' : α → Prop} {B : β → Prop} {r : Render α}

/-- Where a step that began in the state `s` came to. -/
structure State.Passes (V : Vocabulary) (known : Library → Prop) (s : State) (A : α → Prop)
    (e : Except Halt α × State) : Prop where
  blocks : e.2.blocks = s.blocks
  state : e.2.Within V known
  result : Ends A (Halt.Within V) e.1

/-- Run in the state `s`, if that is within the vocabulary, `r` gives what `A` holds for or fails
within the vocabulary. -/
def Render.SoundAt (host : Host) (V : Vocabulary) (known : Library → Prop) (s : State)
    (r : Render α) (A : α → Prop) : Prop := s.Within V known → s.Passes V known A (r host s)

open Render

/-! ### Rules -/

theorem sound_pure {a : α} (ha : A a) : SoundAt host V known s (pure a) A :=
  fun hs => ⟨rfl, hs, ha⟩

theorem sound_throw {h : Halt} (hh : h.Within V) : SoundAt host V known s (throw h) A :=
  fun hs => ⟨rfl, hs, hh⟩

theorem sound_fail (fault : RunFault) : SoundAt host V known s (fail fault) A :=
  fun hs => ⟨rfl, hs, nofun⟩

/-- The second step is run in a state that the first one comes to. -/
theorem sound_bind {f : α → Render β} (hr : SoundAt host V known s r A)
    (hf : ∀ a t, r host s = (.ok a, t) → A a → SoundAt host V known t (f a) B) :
    SoundAt host V known s (r >>= f) B := by
  intro hs
  have hpassed := hr hs
  rw [run_bind]
  rcases hx : r host s with ⟨h | a, t⟩ <;> rw [hx] at hpassed
  · exact ⟨hpassed.blocks, hpassed.state, hpassed.result⟩
  · have hnext := hf a t hx hpassed.result hpassed.state
    exact ⟨hnext.blocks.trans hpassed.blocks, hnext.state, hnext.result⟩

theorem sound_get_bind {f : State → Render β}
    (hf : s.Within V known → SoundAt host V known s (f s) B) :
    SoundAt host V known s (get >>= f) B := fun hs => hf hs hs

theorem sound_read_bind {f : Host → Render β} (hf : SoundAt host V known s (f host) B) :
    SoundAt host V known s (read >>= f) B := hf

theorem sound_ofExcept {x : Except Error α} (h : V.Answers A x) :
    SoundAt host V known s (Halt.ofExcept x) A := by
  cases x with
  | ok a => exact sound_pure h
  | error e => exact sound_throw h

theorem sound_ofFault {x : Except RunFault α} (h : ∀ a, x = .ok a → A a) :
    SoundAt host V known s (ofFault x) A := by
  cases x with
  | ok a => exact sound_pure (h a rfl)
  | error fault => exact sound_fail fault

theorem sound_ofFault_bind {x : Except RunFault α} {f : α → Render β}
    (hf : ∀ a, x = .ok a → SoundAt host V known s (f a) B) :
    SoundAt host V known s (ofFault x >>= f) B := by
  cases x with
  | ok a => exact hf a rfl
  | error fault => exact sound_bind (A := fun _ => False) (sound_fail fault) fun _ _ _ h => h.elim

/-- What fails without a position gets one of the vocabulary. -/
theorem sound_located {p : Position} (hp : V.position p) (hr : SoundAt host V known s r A) :
    SoundAt host V known s (located p r) A := by
  intro hs
  have hpassed := hr hs
  unfold located
  rcases hx : r host s with ⟨h | a, t⟩ <;> rw [hx] at hpassed
  · refine ⟨hpassed.blocks, hpassed.state, ?_⟩
    have hh : h.Within V := hpassed.result
    match h, hh with
    | .error (.execution none _ _), _ => exact fun | _, rfl => hp
    | .error (.execution (some _) _ _), hh | .error (.lex _ _), hh | .error (.parse _ _ _), hh
    | .error (.loader _ _), hh | .error (.registration _), hh | .error (.io _), hh
    | .error .write, hh | .exhausted, hh => exact hh
  · exact hpassed

/-- A part of a render for which the state is changed and set back. -/
theorem sound_within {enter : State → State} {leave : State → State → State}
    (hr : SoundAt host V known (enter s) r A)
    (henter : s.Within V known → (enter s).Within V known)
    (hleave : s.Within V known → ∀ t, t.blocks = (enter s).blocks → t.Within V known →
      (leave s t).blocks = s.blocks ∧ (leave s t).Within V known) :
    SoundAt host V known s (within enter leave r) A := by
  intro hs
  have hpassed := hr (henter hs)
  obtain ⟨hblocks, hstate⟩ := hleave hs _ hpassed.blocks hpassed.state
  exact ⟨hblocks, hstate, hpassed.result⟩

/-! ### States -/

theorem State.Within.bind (hs : s.Within V known) (name : String) {v : Value} (hv : v.Within V) :
    (s.bind name v).Within V known := by
  unfold State.bind
  split
  · exact hs
  · rename_i scope rest hscopes
    obtain ⟨hscope, hrest⟩ := List.forall_mem_cons.mp (hscopes ▸ hs.scopes)
    exact { hs with
      scopes := List.forall_mem_cons.mpr ⟨bindings_within_insert hscope name hv, hrest⟩ }

theorem State.Within.lookup (hs : s.Within V known) (name : String) :
    (s.lookup name).Within V := by
  have hget {b : Bindings} (hb : Bindings.Within V b) {v : Value} (hv : b.get? name = some v) :
      v.Within V := hb (name, v) (Table.mem_of_get? hv)
  unfold State.lookup
  split
  · rename_i hfound
    obtain ⟨scope, hscope, hv⟩ := List.exists_of_findSome?_eq_some hfound
    exact hget (hs.scopes scope hscope) hv
  · split
    · exact hget hs.context ‹_›
    · cases hfound : s.globals.get? name with
      | none => exact .nil
      | some v => exact hget hs.globals hfound

/-! ### Output -/

theorem sound_write (text : String) : SoundAt host V known s (write text) fun _ => True := by
  intro hs
  refine ⟨rfl, { hs with }, ?_⟩
  unfold write
  generalize s.out.write text = written
  obtain ⟨out, _ | _⟩ := written
  · generalize s.out = sink
    cases sink <;> trivial
  · trivial

theorem sound_writeValue (v : Value) : SoundAt host V known s (writeValue v) fun _ => True :=
  sound_get_bind fun _ => sound_write _

theorem sound_writeAnswer {x : Except Error String} (hx : V.Answers (fun _ => True) x) :
    SoundAt host V known s (writeAnswer x) fun _ => True :=
  sound_bind (sound_ofExcept hx) fun text _ _ _ => sound_write text

theorem sound_capture {r : Render Unit}
    (hr : SoundAt host V known { s with out := .empty } r fun _ => True) :
    SoundAt host V known s (capture r) fun _ => True := by
  intro hs
  have hpassed := hr { hs with }
  unfold capture
  generalize r host { s with out := .empty } = e at hpassed ⊢
  obtain ⟨result, t⟩ := e
  refine ⟨hpassed.blocks, { hpassed.state with }, ?_⟩
  cases result with
  | ok => trivial
  | error h => exact hpassed.result

theorem sound_attempt (hr : SoundAt host V known s r A) :
    SoundAt host V known s (attempt r) (V.Answers A) := by
  intro hs
  have hpassed := hr hs
  unfold attempt
  generalize r host s = e at hpassed ⊢
  obtain ⟨(_ | _) | _, t⟩ := e <;> exact ⟨hpassed.blocks, hpassed.state, hpassed.result⟩

theorem sound_assign (name : String) {v : Value} (hv : v.Within V) :
    SoundAt host V known s (modify (·.bind name v)) fun _ => True :=
  fun hs => ⟨(rests_bind s name v).blocks, hs.bind name hv, trivial⟩

/-! ### Brackets -/

theorem sound_inScope {bindings : List (String × Value)} (hb : ∀ b ∈ bindings, b.2.Within V)
    (hr : SoundAt host V known { s with scopes := Table.ofList bindings :: s.scopes } r A) :
    SoundAt host V known s (inScope bindings r) A := by
  refine sound_within hr (fun hs => ?_) fun _ t hblocks ht => ⟨hblocks, ?_⟩
  · exact { hs with
      scopes := List.forall_mem_cons.mpr ⟨bindings_within_ofList hb, hs.scopes⟩ }
  · exact { ht with scopes := fun scope hscope => ht.scopes scope (List.mem_of_mem_tail hscope) }

theorem sound_isolated {bindings : List (String × Value)} (hb : ∀ b ∈ bindings, b.2.Within V)
    (hr : SoundAt host V known
      { s with scopes := [Table.ofList bindings, State.baseScope] } r A) :
    SoundAt host V known s (isolated bindings r) A := by
  refine sound_within hr (fun hs => ?_) fun hs t hblocks ht => ⟨hblocks, ?_⟩
  · exact { hs with
      scopes := List.forall_mem_cons.mpr ⟨bindings_within_ofList hb,
        List.forall_mem_singleton.mpr baseScope_within⟩ }
  · exact { ht with scopes := hs.scopes }

theorem sound_withAutoescape (enabled : Bool)
    (hr : SoundAt host V known { s with autoescape := enabled } r A) :
    SoundAt host V known s (withAutoescape enabled r) A :=
  sound_within hr (fun hs => { hs with }) fun _ _ hblocks ht => ⟨hblocks, { ht with }⟩

theorem sound_deeper (what : String) (hr : s.depth < s.recursionLimit →
    SoundAt host V known { s with depth := s.depth + 1 } r A) :
    SoundAt host V known s (deeper what r) A := by
  refine sound_get_bind fun _ => ?_
  split
  · exact sound_fail _
  · rename_i hdepth
    exact sound_within (hr (Nat.not_le.mp hdepth)) (fun hs => { hs with })
      fun _ _ hblocks ht => ⟨hblocks, { ht with }⟩

theorem sound_withChain {chain : List Template} (hchain : ∀ t ∈ chain, t.Within V)
    (hr : SoundAt host V known { s with chain } r A) :
    SoundAt host V known s (withChain chain r) A :=
  sound_within hr (fun hs => { hs with chain := hchain }) fun hs _ hblocks ht =>
    ⟨hblocks, { ht with chain := hs.chain }⟩

theorem sound_withBlock {overridden : List Body} (hbodies : ∀ body ∈ overridden, Body.Within V body)
    (hr : SoundAt host V known { s with blocks := overridden :: s.blocks } r A) :
    SoundAt host V known s (withBlock overridden r) A := by
  refine sound_within hr (fun hs => { hs with overridden := hbodies }) fun hs t hblocks ht => ?_
  have htail : t.blocks.tail = s.blocks := congrArg List.tail hblocks
  exact ⟨htail, { ht with overridden := by rw [htail]; exact hs.overridden }⟩

end Steps

/-!
## Expressions

What is evaluated at a stage stands in a template that takes part, if the value that is evaluated
does. Jumps lead to other stages, with room for one jump less.
-/

section Expressions

open Render

/-- What is known of a run: it renders a template of a set, and the host and the data bring in no
positions of templates that do not take part. -/
structure Run.Fair (r : Run) (l : Library) : Prop where
  honest : ∀ e ∈ l.catalog.tags.entries, e.2.Honest
  cache : l.cache = []
  template : r.template.Within
    (.own l.settings.trimming r.template.name r.template.source l.Furnishes)
  modest : r.host.Modest
  host : r.host.Within (r.places l) (l.Asked {})

/-- Run at a stage of the run, `step` stays within the places of the templates that take part. -/
abbrev Run.SoundAt {α : Type} (r : Run) (l : Library) (s : State) (step : Render α) (A : α → Prop) :
    Prop := Render.SoundAt r.host (r.places l) (l.Asked {}) s step A

/-- What is executed and evaluated at stages where jumps may nest to the depth `fuel` is sound. -/
structure Run.SoundUpTo (r : Run) (l : Library) (fuel : Nat) : Prop where
  nodes : ∀ {body s}, r.Stage fuel (.nodes body) s → Body.Within (r.places l) body →
    r.SoundAt l s (execNodes (.upTo fuel) body) fun _ => True
  expr : ∀ {e s}, r.Stage fuel (.expr e) s → e.Within (r.places l) →
    r.SoundAt l s (e.eval (.upTo fuel)) (Value.Within (r.places l))

variable {r : Run} {l : Library} {fuel : Nat} {s : State} (hr : r.Fair l)
  (hj : ∀ fuel', fuel = fuel' + 1 → r.SoundUpTo l fuel')

/-! ### Jumps -/

section Jumps

include hj

theorem sound_run {body : Body} (hbody : body.Within (r.places l))
    (stage : ∀ fuel', fuel = fuel' + 1 → r.Stage fuel' (.nodes body) s) :
    r.SoundAt l s ((Jumps.upTo fuel).run body) fun _ => True := by
  cases fuel with
  | zero => exact sound_throw trivial
  | succ fuel => exact (hj fuel rfl).nodes (stage fuel rfl) hbody

theorem sound_runOverridden {body : Body} (hbody : body.Within (r.places l))
    (stage : ∀ fuel', fuel = fuel' + 1 → r.Stage fuel' (.nodes body) s) :
    r.SoundAt l s ((Jumps.upTo fuel).runOverridden body) fun _ => True := by
  cases fuel with
  | zero => exact sound_throw trivial
  | succ fuel => exact (hj fuel rfl).nodes (stage fuel rfl) hbody

theorem sound_jumpEval {e : Expr} (he : e.Within (r.places l))
    (stage : ∀ fuel', fuel = fuel' + 1 → r.Stage fuel' (.expr e) s) :
    r.SoundAt l s ((Jumps.upTo fuel).eval e) (Value.Within (r.places l)) := by
  cases fuel with
  | zero => exact sound_throw trivial
  | succ fuel => exact (hj fuel rfl).expr (stage fuel rfl) he

end Jumps

/-! ### Calls -/

section Calls

variable {task : Task} {s₀ : State} {f : Function} {args : List Value}

include hj in
theorem sound_bindParameters (params : List (String × Option Expr)) (args : List Value)
    (binds : r.Binds fuel params args s)
    (hparams : ∀ p ∈ params, ∀ e ∈ p.2, e.Within (r.places l))
    (hargs : ∀ a ∈ args, a.Within (r.places l)) :
    r.SoundAt l s (bindParameters (.upTo fuel) params args)
      fun bindings => ∀ b ∈ bindings, b.2.Within (r.places l) := by
  induction params, args using bindParameters.induct generalizing s with
  | case1 => exact sound_pure (List.forall_mem_nil _)
  | case2 name default params v args ih =>
    obtain ⟨-, hparams⟩ := List.forall_mem_cons.mp hparams
    obtain ⟨hv, hargs⟩ := List.forall_mem_cons.mp hargs
    unfold bindParameters
    exact sound_bind (ih binds.given hparams hargs) fun _ _ _ hb =>
      sound_pure (List.forall_mem_cons.mpr ⟨hv, hb⟩)
  | case3 name params ih =>
    obtain ⟨-, hparams⟩ := List.forall_mem_cons.mp hparams
    unfold bindParameters
    exact sound_bind (ih binds.missing hparams (List.forall_mem_nil _)) fun _ _ _ hb =>
      sound_pure (List.forall_mem_cons.mpr ⟨.nil, hb⟩)
  | case4 name e params ih =>
    obtain ⟨he, hparams⟩ := List.forall_mem_cons.mp hparams
    unfold bindParameters
    refine sound_bind (sound_jumpEval hj (he e rfl) ?_) fun v t done hv => ?_
    · rintro fuel' rfl
      exact .default binds
    · exact sound_bind (ih (binds.next done) hparams (List.forall_mem_nil _)) fun _ _ _ hb =>
        sound_pure (List.forall_mem_cons.mpr ⟨hv, hb⟩)

include hr in
theorem sound_callHost (key : String) {data : Value} (hdata : data.Within (r.places l))
    (hargs : ∀ a ∈ args, a.Within (r.places l)) :
    r.SoundAt l s (callHost key data args) (Value.Within (r.places l)) := by
  intro hs
  obtain ⟨hanswer, hstate⟩ := hr.host.function key hdata hargs hs
  have hblocks := (hr.modest.rests key data args s).blocks
  unfold callHost
  generalize r.host.function key data args s = e at hanswer hstate hblocks ⊢
  obtain ⟨_ | v, t⟩ := e <;> exact ⟨hblocks, hstate, hanswer⟩

variable (stage : r.Stage fuel task s₀)
include hj stage

theorem sound_callMacro {m : Macro} (hm : m.Within (r.places l))
    (calls : task.Calls r.host (.upTo fuel) s₀ f args s) (body : f.callback = .body m)
    (hargs : ∀ a ∈ args, a.Within (r.places l)) :
    r.SoundAt l s (callMacro (.upTo fuel) m args) (Value.Within (r.places l)) := by
  refine sound_deeper _ fun shallow => ?_
  refine sound_bind (sound_bindParameters hj _ _ (.call stage calls body shallow) hm.params hargs)
    fun values t bound hvalues => ?_
  refine sound_bind (sound_inScope hvalues (sound_capture (sound_run hj hm.body ?_)))
    fun text _ _ _ => sound_pure (.safe text)
  rintro fuel' rfl
  exact .called stage calls body shallow bound

theorem sound_renderSuper (calls : task.Calls r.host (.upTo fuel) s₀ f args s)
    (super : f.callback = .super) :
    r.SoundAt l s (renderSuper (.upTo fuel)) (Value.Within (r.places l)) := by
  refine sound_get_bind fun hs => ?_
  split
  · rename_i body rest frames frame
    have hbodies := hs.overridden
    rw [frame] at hbodies
    obtain ⟨hbody, hrest⟩ := List.forall_mem_cons.mp hbodies
    refine sound_bind (sound_withBlock hrest (sound_capture (sound_runOverridden hj hbody ?_)))
      fun text _ _ _ => sound_pure (.safe text)
    rintro fuel' rfl
    exact .overridden stage calls super frame
  · exact sound_pure (.safe "")

include hr

theorem sound_callFunction (hf : (Value.func f).Within (r.places l))
    (calls : f.check args = .ok () → task.Calls r.host (.upTo fuel) s₀ f args s)
    (hargs : ∀ a ∈ args, a.Within (r.places l)) :
    r.SoundAt l s (callFunction (.upTo fuel) f args) (Value.Within (r.places l)) := by
  refine sound_ofFault_bind fun _ fits => ?_
  cases hf with
  | func hf =>
    cases hcallback : f.callback with
    | body m =>
      rw [hcallback] at hf
      cases hf with
      | body hm => exact sound_callMacro hj stage hm (calls fits) hcallback hargs
    | super => exact sound_renderSuper hj stage (calls fits) hcallback
    | host key data =>
      rw [hcallback] at hf
      cases hf with
      | host hdata => exact sound_callHost hr key hdata hargs

omit stage in
theorem sound_implicitCall {v : Value} {segments : List Segment}
    (stage : r.Stage fuel (.path v segments) s) (hv : v.Within (r.places l))
    (noCall : ∀ args rest, segments ≠ .call args :: rest) :
    r.SoundAt l s (evalPath.implicitCall (.upTo fuel) v) (Value.Within (r.places l)) := by
  unfold evalPath.implicitCall
  split
  · split
    · rename_i none
      exact sound_callFunction hr hj stage hv (fun fits => .implicit noCall none fits)
        (List.forall_mem_nil _)
    · exact sound_pure hv
  · exact sound_pure hv

omit hj stage in
theorem sound_callMethod (record : HostRecord) (name : String)
    (hargs : ∀ a ∈ args, a.Within (r.places l)) :
    r.SoundAt l s (callMethod record name args) (Value.Within (r.places l)) := by
  unfold callMethod
  split
  · exact sound_read_bind (sound_ofExcept (hr.host.method _ hargs))
  · exact sound_fail _

omit hj stage in
theorem sound_applyFilter (name : String) {p : Position} (hp : (r.places l).position p)
    (filter : FilterRef) {v : Value} (hv : v.Within (r.places l)) {arg : Option Value}
    (harg : ∀ a ∈ arg, a.Within (r.places l)) :
    r.SoundAt l s (applyFilter name p filter v arg) (Value.Within (r.places l)) := by
  have hresult {result : Except Error Value}
      (hanswer : (r.places l).Answers (Value.Within (r.places l)) result) :
      r.SoundAt l s (filterResult name p result) (Value.Within (r.places l)) := by
    unfold filterResult
    split
    · exact sound_pure hanswer
    · exact sound_throw fun | _, rfl => hp
    · exact sound_throw hanswer
  unfold applyFilter
  split
  · split
    · exact sound_pure (within_apply hv harg ‹_›)
    · exact sound_throw trivial
    · exact hresult nofun
  · exact sound_read_bind (hresult (hr.host.filter _ hv harg))

end Calls

/-! ### Trees -/

mutual

theorem sound_eval (hr : r.Fair l) (hj : ∀ fuel', fuel = fuel' + 1 → r.SoundUpTo l fuel') :
    (e : Expr) → e.Within (r.places l) → {s : State} → r.Stage fuel (.expr e) s →
    r.SoundAt l s (e.eval (.upTo fuel)) (Value.Within (r.places l))
  | .literal l, _, _, _ => sound_pure (within_literal l)
  | .array items, .array hitems, _, stage =>
    sound_bind (sound_evalAll hr hj items hitems (stage.turn .array)) fun _ _ _ hvs =>
      sound_pure (.seq hvs)
  | .path name segments p, .path _ hsegments hp, _, stage =>
    sound_located hp (sound_get_bind fun hs =>
      sound_evalPath hr hj segments hsegments (hs.lookup name) (stage.turn .path))
  | .unary op e p, .unary he hp, _, stage =>
    sound_bind (sound_eval hr hj e he (stage.turn .operand)) fun v _ _ hv =>
      sound_located hp (sound_ofFault fun _ => within_applyUnary hv)
  | .binary op a b p, .binary ha hb hp, _, stage => by
    refine sound_bind (sound_eval hr hj a ha (stage.turn .left)) fun v t done hv => ?_
    have hright (needed : (op = .and → v.isTruthy) ∧ (op = .or → ¬v.isTruthy)) :=
      sound_eval hr hj b hb (stage.turn (.right done needed))
    have htruth (needed : (op = .and → v.isTruthy) ∧ (op = .or → ¬v.isTruthy)) :
        r.SoundAt l t (do return Value.bool (← b.eval (.upTo fuel)).isTruthy)
          (Value.Within (r.places l)) :=
      sound_bind (hright needed) fun _ _ _ _ => sound_pure (.bool _)
    split
    · split
      · exact htruth ⟨fun _ => ‹_›, nofun⟩
      · exact sound_pure (.bool _)
    · split
      · exact sound_pure (.bool _)
      · exact htruth ⟨nofun, fun _ => ‹_›⟩
    · rename_i hand hor
      exact sound_bind (hright ⟨fun h => (hand h).elim, fun h => (hor h).elim⟩) fun w _ _ hw =>
        sound_located hp (sound_ofFault fun _ => within_applyBinary hv hw)
  | .filtered e filters, .filtered he hfilters, _, stage =>
    sound_bind (sound_eval hr hj e he (stage.turn .filtered)) fun _ _ done hv =>
      sound_evalFilters hr hj filters hfilters hv (stage.turn (.filters done))

theorem sound_evalAll (hr : r.Fair l) (hj : ∀ fuel', fuel = fuel' + 1 → r.SoundUpTo l fuel') :
    (es : List Expr) → (∀ e ∈ es, e.Within (r.places l)) → {s : State} →
    r.Stage fuel (.exprs es) s →
    r.SoundAt l s (evalAll (.upTo fuel) es) fun vs => ∀ v ∈ vs, v.Within (r.places l)
  | [], _, _, _ => sound_pure nofun
  | e :: es, hes, _, stage =>
    have ⟨he, hes⟩ := List.forall_mem_cons.mp hes
    sound_bind (sound_eval hr hj e he (stage.turn .item)) fun _ _ done hv =>
      sound_bind (sound_evalAll hr hj es hes (stage.turn (.nextItem done))) fun _ _ _ hvs =>
        sound_pure (List.forall_mem_cons.mpr ⟨hv, hvs⟩)

theorem sound_evalPath (hr : r.Fair l) (hj : ∀ fuel', fuel = fuel' + 1 → r.SoundUpTo l fuel') :
    (segments : List Segment) → (∀ segment ∈ segments, segment.Within (r.places l)) →
    {v : Value} → v.Within (r.places l) → {s : State} → r.Stage fuel (.path v segments) s →
    r.SoundAt l s (evalPath (.upTo fuel) v segments) (Value.Within (r.places l))
  | [], _, _, hv, _, stage => sound_implicitCall hr hj stage hv nofun
  | .call args :: rest, hsegments, v, hv, _, stage => by
    obtain ⟨hcall, hrest⟩ := List.forall_mem_cons.mp hsegments
    rw [evalPath.eq_def]
    dsimp only
    split
    · exact sound_pure .nil
    · cases hcall with
      | call hargs =>
        refine sound_bind (sound_evalAll hr hj args hargs (stage.turn .arguments))
          fun values _ done hvalues => ?_
        refine sound_bind (sound_callFunction hr hj stage hv (.explicit done) hvalues)
          fun w _ done' hw => ?_
        exact sound_evalPath hr hj rest hrest hw (stage.turn (.called done done'))
    · exact sound_fail _
  | .attr name :: rest, hsegments, v, hv, s, stage => by
    obtain ⟨-, hrest⟩ := List.forall_mem_cons.mp hsegments
    have hcalled := sound_implicitCall hr hj stage hv nofun
    have hmember (w : Value) (t : State)
        (done : evalPath.implicitCall (.upTo fuel) v r.host s = (.ok w, t))
        (hw : w.Within (r.places l))
        (noMethod : ∀ record args rest', w = .record record → rest ≠ .call args :: rest') :
        r.SoundAt l t (do evalPath (.upTo fuel) (← ofFault (w.member name)) rest)
          (Value.Within (r.places l)) :=
      sound_ofFault_bind fun x member =>
        sound_evalPath hr hj rest hrest (within_member hw member)
          (stage.turn (.member done noMethod member))
    match rest, hrest, stage, hcalled, hmember with
    | .call args :: rest, hrest, stage, hcalled, hmember =>
      obtain ⟨hcall, hrest⟩ := List.forall_mem_cons.mp hrest
      rw [evalPath]
      refine sound_bind hcalled fun w t done hw => ?_
      split
      · exact sound_pure .nil
      · cases hcall with
        | call hargs =>
          refine sound_bind (sound_evalAll hr hj args hargs (stage.turn (.methodArguments done)))
            fun values _ done' hvalues => ?_
          refine sound_bind (sound_callMethod hr _ name hvalues) fun u _ done'' hu => ?_
          exact sound_evalPath hr hj rest hrest hu (stage.turn (.methodCalled done done' done''))
      · rename_i hrecord
        exact hmember w t done hw fun record _ _ heq => (hrecord record heq).elim
    | [], _, _, hcalled, hmember | .attr _ :: _, _, _, hcalled, hmember
    | .index _ :: _, _, _, hcalled, hmember | .subscript _ :: _, _, _, hcalled, hmember =>
      rw [evalPath]
      · refine sound_bind hcalled fun w t done hw => ?_
        split
        · exact sound_pure .nil
        · exact hmember w t done hw nofun
      · nofun
  | .index n :: rest, hsegments, v, hv, _, stage => by
    obtain ⟨-, hrest⟩ := List.forall_mem_cons.mp hsegments
    rw [evalPath]
    refine sound_bind (sound_implicitCall hr hj stage hv nofun) fun w t done hw => ?_
    split
    · exact sound_pure .nil
    · exact sound_ofFault_bind fun x item => sound_evalPath hr hj rest hrest (within_item hw item)
        (stage.turn (.index done item))
  | .subscript key :: rest, hsegments, v, hv, _, stage => by
    obtain ⟨hsubscript, hrest⟩ := List.forall_mem_cons.mp hsegments
    rw [evalPath]
    refine sound_bind (sound_implicitCall hr hj stage hv nofun) fun w t done hw => ?_
    split
    · exact sound_pure .nil
    · rename_i some
      cases hsubscript with
      | subscript hkey =>
        refine sound_bind (sound_eval hr hj key hkey (stage.turn (.key done some)))
          fun k _ done' hk => ?_
        exact sound_ofFault_bind fun x entry => sound_evalPath hr hj rest hrest
          (within_subscript hw hk entry) (stage.turn (.subscript done some done' entry))

theorem sound_evalFilters (hr : r.Fair l) (hj : ∀ fuel', fuel = fuel' + 1 → r.SoundUpTo l fuel') :
    (filters : List FilterCall) → (∀ f ∈ filters, f.Within (r.places l)) →
    {v : Value} → v.Within (r.places l) → {s : State} → r.Stage fuel (.filters v filters) s →
    r.SoundAt l s (evalFilters (.upTo fuel) v filters) (Value.Within (r.places l))
  | [], _, _, hv, _, _ => sound_pure hv
  | .mk name none p f :: rest, hfilters, _, hv, _, stage => by
    obtain ⟨hfilter, hrest⟩ := List.forall_mem_cons.mp hfilters
    cases hfilter with
    | mk _ hp =>
      refine sound_bind (sound_applyFilter hr name hp f hv nofun) fun w _ done hw => ?_
      exact sound_evalFilters hr hj rest hrest hw (stage.turn (.nextFilter done))
  | .mk name (some e) p f :: rest, hfilters, _, hv, _, stage => by
    obtain ⟨hfilter, hrest⟩ := List.forall_mem_cons.mp hfilters
    cases hfilter with
    | mk harg hp =>
      refine sound_bind (sound_eval hr hj e (harg e rfl) (stage.turn .filterArgument))
        fun arg _ done ha => ?_
      refine sound_bind (sound_applyFilter hr name hp f hv fun | _, rfl => ha)
        fun w _ done' hw => ?_
      exact sound_evalFilters hr hj rest hrest hw (stage.turn (.nextFilterWith done done'))

end

end Expressions

end Stencil
