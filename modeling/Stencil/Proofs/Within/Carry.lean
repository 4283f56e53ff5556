import Stencil.Proofs.Keeping
import Stencil.Proofs.Within.Likeness

/-!
# Renders that carry each other

One render carries another if from related states it gets to the result of that one whenever there
is one, and leaves related states; what it does where that one halts is left open. The relation may
change inside of a bracket, say where a scope was pushed, so it is a family of relations.
-/

namespace Stencil

section Steps

variable {ι : Type} {R : ι → State → State → Prop} {host : Host} {V : Vocabulary} {α β : Type}

/-- A change of two states for a part of a render that is set back behind it: inside some relation
of the family holds, and outside the one that held before. -/
def Surrounds (R : ι → State → State → Prop) (enter : State → State)
    (leave : State → State → State) : Prop :=
  ∀ i s s', R i s s' → ∃ i', R i' (enter s) (enter s') ∧
    ∀ t t', R i' t t' → R i (leave s t) (leave s' t')

/-- A family of relations between states in which a tree within the vocabulary cannot tell that it
is rendered in the second one. -/
structure Carried (host : Host) (V : Vocabulary) (R : ι → State → State → Prop) : Prop where
  /-- The names of the vocabulary mean the same. -/
  lookup : ∀ {i s s' name}, R i s s' → V.name name →
    s.lookup name = s'.lookup name ∧ (s.lookup name).Within V
  autoescape : ∀ {i s s'}, R i s s' → s.autoescape = s'.autoescape
  recursionLimit : ∀ {i s s'}, R i s s' → s.recursionLimit = s'.recursionLimit
  /-- The second render has room for includes and calls where the first one has. -/
  room : ∀ {i s s'}, R i s s' → s.depth < s.recursionLimit → s'.depth < s'.recursionLimit
  out : ∀ {i s s'}, R i s s' → s.out = s'.out
  output : ∀ {i s s'} out, R i s s' → R i { s with out } { s' with out }
  bind : ∀ {i s s'} name {v : Value}, R i s s' → v.Within V → R i (s.bind name v) (s'.bind name v)
  /-- The blocks of the vocabulary have the same bodies. -/
  bodies : ∀ {i s s' name}, R i s s' → V.block name →
    bodiesOf name s.chain = bodiesOf name s'.chain ∧
      ∀ body ∈ bodiesOf name s.chain, Body.Within V body
  overridden : ∀ {i s s'}, R i s s' →
    s.blocks.head?.getD [] = s'.blocks.head?.getD [] ∧
      ∀ body ∈ s.blocks.head?.getD [], Body.Within V body
  set : ∀ {i s s'}, R i s s' → V.lookup → s.set = s'.set
  load : ∀ {i s s' l} referrer name, R i s s' → V.lookup → s.set = some l →
    (∀ t, (Library.load referrer name l).1 = .ok t → t.Within V) ∧
      R i { s with set := some (Library.load referrer name l).2 }
        { s' with set := some (Library.load referrer name l).2 }
  scope : ∀ {scope : Bindings}, Bindings.Within V scope →
    Surrounds R (fun s => { s with scopes := scope :: s.scopes })
      (fun _ s => { s with scopes := s.scopes.tail })
  isolated : ∀ {scope : Bindings}, Bindings.Within V scope →
    Surrounds R (fun s => { s with scopes := [scope, State.baseScope] })
      (fun before s => { s with scopes := before.scopes })
  escaping : ∀ enabled, Surrounds R (fun s => { s with autoescape := enabled })
    (fun before s => { s with autoescape := before.autoescape })
  deeper : Surrounds R (fun s => { s with depth := s.depth + 1 })
    (fun _ s => { s with depth := s.depth - 1 })
  chain : ∀ {chain : List Template}, (∀ t ∈ chain, t.Within V) →
    Surrounds R (fun s => { s with chain }) (fun before s => { s with chain := before.chain })
  block : ∀ {overridden : List Body}, (∀ body ∈ overridden, Body.Within V body) →
    Surrounds R (fun s => { s with blocks := overridden :: s.blocks })
      (fun _ s => { s with blocks := s.blocks.tail })
  function : ∀ {i s s' key data args v t}, R i s s' → Value.Within V data →
    (∀ a ∈ args, Value.Within V a) → host.function key data args s = (.ok v, t) →
    v.Within V ∧ ∃ t', host.function key data args s' = (.ok v, t') ∧ R i t t'
  method : ∀ {key args v}, (∀ a ∈ args, Value.Within V a) → host.method key args = .ok v →
    v.Within V
  filter : ∀ {key v arg w}, Value.Within V v → (∀ a ∈ arg, Value.Within V a) →
    host.filter key v arg = .ok w → w.Within V
  /-- What may be linked to or imported freely is within the vocabulary as well. -/
  links : ∀ {t}, V.Links t → t.Within V
  imported : ∀ {m}, V.imported m → m.Within V
  /-- Tags of the host pass errors on. -/
  captured : ∀ key e, ∃ e', host.captured key (.error e) = .error e'

namespace Render

/-- From related states, `r'` gets to each result of `r`, for which `A` holds, and leaves related
states. -/
def Carries (host : Host) (R : ι → State → State → Prop) (r r' : Render α) (A : α → Prop) : Prop :=
  ∀ i s s', R i s s' → ∀ a t, r host s = (.ok a, t) → A a ∧
    ∃ t', r' host s' = (.ok a, t') ∧ R i t t'

end Render

open Render

variable {r r' : Render α} {A : α → Prop} {B : β → Prop}

/-! ### Rules -/

section Rules

theorem carries_pure {a : α} (ha : A a) : Carries host R (pure a) (pure a) A := by
  rintro i s s' hs _ _ ⟨⟩
  exact ⟨ha, s', rfl, hs⟩

theorem carries_throw (h : Halt) (x : Render α) : Carries host R (throw h) x A := by
  rintro i s s' hs _ _ ⟨⟩

theorem carries_fail (fault : RunFault) (x : Render α) : Carries host R (fail fault) x A :=
  carries_throw _ x

theorem carries_bind {f f' : α → Render β} (hr : Carries host R r r' A)
    (hf : ∀ a, A a → Carries host R (f a) (f' a) B) : Carries host R (r >>= f) (r' >>= f') B := by
  intro i s s' hs b u hu
  obtain ⟨a, t, hx, hu⟩ := exists_of_run_bind hu
  obtain ⟨ha, t', ht', ht⟩ := hr i s s' hs a t hx
  obtain ⟨hb, u', hu', hend⟩ := hf a ha i t t' ht b u hu
  exact ⟨hb, u', (run_bind_of_ok ht').trans hu', hend⟩

theorem carries_get_bind {f f' : State → Render β}
    (hf : ∀ i s s', R i s s' → Carries host R (f s) (f' s') B) :
    Carries host R (get >>= f) (get >>= f') B := fun i s s' hs => hf i s s' hs i s s' hs

theorem carries_read_bind {f f' : Host → Render β} (hf : Carries host R (f host) (f' host) B) :
    Carries host R (read >>= f) (read >>= f') B := hf

theorem carries_modify {f f' : State → State} (hf : ∀ i s s', R i s s' → R i (f s) (f' s')) :
    Carries host R (modify f) (modify f') fun _ => True := by
  rintro i s s' hs _ _ ⟨⟩
  exact ⟨trivial, f' s', rfl, hf i s s' hs⟩

theorem carries_ofExcept {x : Except Error α} (h : ∀ a, x = .ok a → A a) :
    Carries host R (Halt.ofExcept x) (Halt.ofExcept x) A := by
  cases x with
  | ok a => exact carries_pure (h a rfl)
  | error e => exact carries_throw _ _

theorem carries_ofFault {x : Except RunFault α} (h : ∀ a, x = .ok a → A a) :
    Carries host R (ofFault x) (ofFault x) A := by
  cases x with
  | ok a => exact carries_pure (h a rfl)
  | error fault => exact carries_fail fault _

theorem carries_located (p : Position) (hr : Carries host R r r' A) :
    Carries host R (located p r) (located p r') A := by
  intro i s s' hs a u hu
  unfold located at hu ⊢
  rcases hx : r host s with ⟨_ | b, t⟩ <;> rw [hx] at hu <;> cases hu
  obtain ⟨ha, t', ht', ht⟩ := hr i s s' hs _ _ hx
  exact ⟨ha, t', by rw [ht'], ht⟩

theorem carries_within {enter : State → State} {leave : State → State → State}
    (h : Surrounds R enter leave) (hr : Carries host R r r' A) :
    Carries host R (within enter leave r) (within enter leave r') A := by
  intro i s s' hs a u hu
  obtain ⟨i', hentered, hleft⟩ := h i s s' hs
  unfold within at hu ⊢
  rcases hx : r host (enter s) with ⟨x, t⟩
  rw [hx] at hu
  obtain ⟨rfl, rfl⟩ := Prod.mk.inj hu
  obtain ⟨ha, t', ht', ht⟩ := hr i' _ _ hentered a t hx
  exact ⟨ha, leave s' t', by rw [ht'], hleft t t' ht⟩

end Rules

/-! ### Steps -/

section Steps

variable (h : Carried host V R)
include h

theorem carries_deeper (what : String) (hr : Carries host R r r' A) :
    Carries host R (deeper what r) (deeper what r') A := by
  refine carries_get_bind fun i s s' hs => ?_
  by_cases hroom : s.recursionLimit ≤ s.depth
  · rw [if_pos hroom]
    exact carries_fail _ _
  · rw [if_neg hroom, if_neg (Nat.not_le.mpr (h.room hs (Nat.not_le.mp hroom)))]
    exact carries_within h.deeper hr

theorem carries_write (text : String) :
    Carries host R (write text) (write text) fun _ => True := by
  intro i s s' hs a t ht
  unfold write at ht ⊢
  rw [← h.out hs]
  generalize s.out.write text = written at ht ⊢
  obtain ⟨out, accepted⟩ := written
  obtain ⟨hend, rfl⟩ := Prod.mk.inj ht
  exact ⟨trivial, _, Prod.ext hend rfl, h.output out hs⟩

theorem carries_capture {r r' : Render Unit} (hr : Carries host R r r' fun _ => True) :
    Carries host R (capture r) (capture r') fun _ => True := by
  intro i s s' hs text u hu
  unfold capture at hu ⊢
  rcases hx : r host { s with out := .empty } with ⟨_ | a, t⟩ <;> rw [hx] at hu <;> cases hu
  obtain ⟨-, t', ht', ht⟩ := hr i _ _ (h.output .empty hs) a t hx
  refine ⟨trivial, { t' with out := s'.out }, ?_, ?_⟩
  · rw [ht', h.out ht]
    rfl
  · rw [h.out hs]
    exact h.output s'.out ht

theorem carries_writeValue (v : Value) :
    Carries host R (writeValue v) (writeValue v) fun _ => True := by
  refine carries_get_bind fun i s s' hs => ?_
  rw [h.autoescape hs]
  exact carries_write h _

theorem carries_assign (name : String) {v : Value} (hv : v.Within V) :
    Carries host R (modify (·.bind name v)) (modify (·.bind name v)) fun _ => True :=
  carries_modify fun _ _ _ hs => h.bind name hs hv

omit h in
/-- What is bound together is looked up as it was bound. -/
theorem bindings_within_ofList {bindings : List (String × Value)}
    (hb : ∀ b ∈ bindings, b.2.Within V) : Bindings.Within V (Table.ofList bindings) := by
  have hfold (scope : Bindings) (hscope : Bindings.Within V scope) :
      Bindings.Within V (bindings.foldl (fun t e => t.insert e.1 e.2) scope) := by
    induction bindings generalizing scope with
    | nil => exact hscope
    | cons b _ ih =>
      obtain ⟨hv, hrest⟩ := List.forall_mem_cons.mp hb
      exact ih hrest _ (bindings_within_insert hscope b.1 hv)
  exact hfold [] nofun

theorem carries_inScope {bindings : List (String × Value)} (hb : ∀ b ∈ bindings, b.2.Within V)
    (hr : Carries host R r r' A) :
    Carries host R (inScope bindings r) (inScope bindings r') A :=
  carries_within (h.scope (bindings_within_ofList hb)) hr

theorem carries_isolated {bindings : List (String × Value)} (hb : ∀ b ∈ bindings, b.2.Within V)
    (hr : Carries host R r r' A) :
    Carries host R (isolated bindings r) (isolated bindings r') A :=
  carries_within (h.isolated (bindings_within_ofList hb)) hr

theorem carries_requireSet (hlookup : V.lookup) :
    Carries host R requireSet requireSet fun _ => True := by
  refine carries_get_bind fun i s s' hs => ?_
  rw [h.set hs hlookup]
  split
  · exact carries_fail _ _
  · exact carries_pure trivial

/-- Both renders load the same, also where they go on behind an error. -/
theorem carries_attempt_load (hlookup : V.lookup) (referrer : Option String) (name : String) :
    Carries host R (attempt (load referrer name)) (attempt (load referrer name))
      fun x => ∀ t, x = .ok t → t.Within V := by
  intro i s s' hs x u hu
  have hset := h.set hs hlookup
  cases hl : s.set with
  | none =>
    have hrun (s : State) (hl : s.set = none) :
        attempt (load referrer name) host s = (.ok (.error (.run .noSet)), s) := by
      unfold attempt load
      rw [hl]
    rw [hrun s hl] at hu
    cases hu
    exact ⟨nofun, s', hrun s' (hset ▸ hl), hs⟩
  | some l =>
    obtain ⟨hloaded, hleft⟩ := h.load referrer name hs hlookup hl
    have hrun (s : State) (hl : s.set = some l) : attempt (load referrer name) host s =
        (match (Library.load referrer name l).1 with
        | .ok t => .ok (.ok t)
        | .error (.error e) => .ok (.error e)
        | .error (@Halt.exhausted why) => .error (@Halt.exhausted why),
        { s with set := some (Library.load referrer name l).2 }) := by
      unfold attempt load
      rw [hl]
      dsimp only [ExceptT.run, StateT.run]
      generalize Library.load referrer name l = e
      rcases e with ⟨(_ | _) | _, _⟩ <;> rfl
    rw [hrun s hl] at hu
    obtain ⟨hend, rfl⟩ := Prod.mk.inj hu
    refine ⟨?_, _, (hrun s' (hset ▸ hl)).trans (Prod.ext hend rfl), hleft⟩
    rintro t rfl
    refine hloaded t ?_
    generalize (Library.load referrer name l).1 = result at hend
    rcases result with (_ | _) | _ <;> cases hend
    rfl

theorem carries_callHost (key : String) {data : Value} (hdata : data.Within V) {args : List Value}
    (hargs : ∀ a ∈ args, a.Within V) :
    Carries host R (callHost key data args) (callHost key data args) (Value.Within V) := by
  intro i s s' hs v u hu
  unfold callHost at hu ⊢
  rcases hx : host.function key data args s with ⟨_ | w, t⟩ <;> rw [hx] at hu <;> cases hu
  obtain ⟨hv, t', ht', ht⟩ := h.function hs hdata hargs hx
  exact ⟨hv, t', by rw [ht'], ht⟩

end Steps

end Steps

/-!
## Carrying expressions

If the jumps of one render are carried by those of another, then so is the evaluation of expressions
within the vocabulary, to values within it.
-/

section Expressions

open Render

variable {ι : Type} {R : ι → State → State → Prop} {host : Host} {V : Vocabulary} {j j' : Jumps}

/-- What the jumps `j` do with trees within the vocabulary, the jumps `j'` do as well. -/
structure Jumps.Carry (host : Host) (V : Vocabulary) (R : ι → State → State → Prop)
    (j j' : Jumps) : Prop where
  run : ∀ {body}, Body.Within V body → Carries host R (j.run body) (j'.run body) fun _ => True
  runOverridden : ∀ {body}, Body.Within V body →
    Carries host R (j.runOverridden body) (j'.runOverridden body) fun _ => True
  eval : ∀ {e}, e.Within V → Carries host R (j.eval e) (j'.eval e) (Value.Within V)

/-! ### Calls -/

section Calls

variable (h : Carried host V R) (hj : j.Carry host V R j')
include h hj

omit h in
theorem carries_bindParameters (params : List (String × Option Expr))
    (hparams : ∀ p ∈ params, ∀ e ∈ p.2, e.Within V) (args : List Value)
    (hargs : ∀ a ∈ args, a.Within V) :
    Carries host R (bindParameters j params args) (bindParameters j' params args)
      fun bindings => ∀ b ∈ bindings, b.2.Within V := by
  induction params, args using bindParameters.induct with
  | case1 => exact carries_pure (List.forall_mem_nil _)
  | case2 name default params v args ih =>
    obtain ⟨-, hparams⟩ := List.forall_mem_cons.mp hparams
    obtain ⟨hv, hargs⟩ := List.forall_mem_cons.mp hargs
    unfold bindParameters
    exact carries_bind (ih hparams hargs) fun _ hb =>
      carries_pure (List.forall_mem_cons.mpr ⟨hv, hb⟩)
  | case3 name params ih =>
    obtain ⟨-, hparams⟩ := List.forall_mem_cons.mp hparams
    unfold bindParameters
    exact carries_bind (ih hparams (List.forall_mem_nil _)) fun _ hb =>
      carries_pure (List.forall_mem_cons.mpr ⟨.nil, hb⟩)
  | case4 name e params ih =>
    obtain ⟨he, hparams⟩ := List.forall_mem_cons.mp hparams
    unfold bindParameters
    refine carries_bind (hj.eval (he e rfl)) fun v hv => ?_
    exact carries_bind (ih hparams (List.forall_mem_nil _)) fun _ hb =>
      carries_pure (List.forall_mem_cons.mpr ⟨hv, hb⟩)

theorem carries_callMacro {m : Macro} (hm : m.Within V) {args : List Value}
    (hargs : ∀ a ∈ args, a.Within V) :
    Carries host R (callMacro j m args) (callMacro j' m args) (Value.Within V) := by
  refine carries_deeper h _ ?_
  refine carries_bind (carries_bindParameters hj _ hm.params _ hargs) fun bindings hbindings => ?_
  refine carries_bind (carries_inScope h hbindings (carries_capture h (hj.run hm.body))) ?_
  exact fun text _ => carries_pure (.safe text)

theorem carries_renderSuper :
    Carries host R (renderSuper j) (renderSuper j') (Value.Within V) := by
  refine carries_get_bind fun i s s' hs => ?_
  obtain ⟨heq, hwithin⟩ := h.overridden hs
  have hempty : Carries host R (pure (Value.safe "")) (pure (Value.safe "")) (Value.Within V) :=
    carries_pure (.safe "")
  have hsuper {body : Body} {rest : List Body} (hbodies : ∀ b ∈ body :: rest, Body.Within V b) :
      Carries host R (do return .safe (← withBlock rest (capture (j.runOverridden body))))
        (do return .safe (← withBlock rest (capture (j'.runOverridden body))))
        (Value.Within V) := by
    obtain ⟨hbody, hrest⟩ := List.forall_mem_cons.mp hbodies
    refine carries_bind (carries_within (h.block hrest)
      (carries_capture h (hj.runOverridden hbody))) fun text _ => ?_
    exact carries_pure (.safe text)
  revert heq hwithin
  generalize s.blocks = blocks
  generalize s'.blocks = blocks'
  intro heq hwithin
  rcases blocks with _ | ⟨_ | ⟨body, rest⟩, _⟩ <;>
    rcases blocks' with _ | ⟨_ | ⟨body', rest'⟩, _⟩ <;> cases heq
  case cons.cons.cons.refl => exact hsuper hwithin
  all_goals exact hempty

theorem carries_callFunction {f : Function} (hf : Value.Within V (.func f)) {args : List Value}
    (hargs : ∀ a ∈ args, a.Within V) :
    Carries host R (callFunction j f args) (callFunction j' f args) (Value.Within V) := by
  refine carries_bind (A := fun _ => True) (carries_ofFault fun _ _ => trivial) fun _ _ => ?_
  cases hf with
  | func hf =>
    generalize f.callback = callback at hf
    cases hf with
    | body hm => exact carries_callMacro h hj hm hargs
    | super => exact carries_renderSuper h hj
    | host hdata => exact carries_callHost h _ hdata hargs

theorem carries_implicitCall {v : Value} (hv : v.Within V) :
    Carries host R (evalPath.implicitCall j v) (evalPath.implicitCall j' v) (Value.Within V) := by
  unfold evalPath.implicitCall
  split
  · split
    · exact carries_callFunction h hj hv (List.forall_mem_nil _)
    · exact carries_pure hv
  · exact carries_pure hv

omit hj in
theorem carries_callMethod (r : HostRecord) (name : String) {args : List Value}
    (hargs : ∀ a ∈ args, a.Within V) :
    Carries host R (callMethod r name args) (callMethod r name args) (Value.Within V) := by
  unfold callMethod
  split
  · exact carries_read_bind (carries_ofExcept fun _ => h.method hargs)
  · exact carries_fail _ _

omit hj in
theorem carries_applyFilter (name : String) (p : Position) (f : FilterRef) {v : Value}
    (hv : v.Within V) {arg : Option Value} (harg : ∀ a ∈ arg, a.Within V) :
    Carries host R (applyFilter name p f v arg) (applyFilter name p f v arg) (Value.Within V) := by
  have hresult {result : Except Error Value} (hvalue : ∀ w, result = .ok w → w.Within V) :
      Carries host R (filterResult name p result) (filterResult name p result)
        (Value.Within V) := by
    unfold filterResult
    split
    · exact carries_pure (hvalue _ rfl)
    · exact carries_throw _ _
    · exact carries_throw _ _
  unfold applyFilter
  split
  · split
    · rename_i w hw
      exact carries_pure (within_apply hv harg hw)
    · exact carries_throw _ _
    · exact hresult nofun
  · exact carries_read_bind (hresult fun w hw => h.filter hv harg hw)

end Calls

/-! ### Expressions -/

mutual

theorem carries_eval (h : Carried host V R) (hj : j.Carry host V R j') :
    (e : Expr) → e.Within V → Carries host R (e.eval j) (e.eval j') (Value.Within V)
  | .literal l, _ => carries_pure (within_literal l)
  | .array items, .array hitems =>
    carries_bind (carries_evalAll h hj items hitems) fun _ hvs => carries_pure (.seq hvs)
  | .path name segments p, .path hname hsegments _ => by
    refine carries_located p (carries_get_bind fun i s s' hs => ?_)
    obtain ⟨heq, hv⟩ := h.lookup hs hname
    rw [← heq]
    exact carries_evalPath h hj segments hsegments hv
  | .unary op e p, .unary he _ =>
    carries_bind (carries_eval h hj e he) fun v hv =>
      carries_located p (carries_ofFault fun _ => within_applyUnary hv)
  | .binary op a b p, .binary ha hb _ => by
    have hb := carries_eval h hj b hb
    have htruth : Carries host R (do return Value.bool (← b.eval j).isTruthy)
        (do return Value.bool (← b.eval j').isTruthy) (Value.Within V) :=
      carries_bind hb fun _ _ => carries_pure (.bool _)
    refine carries_bind (carries_eval h hj a ha) fun v hv => ?_
    split
    · split
      · exact htruth
      · exact carries_pure (.bool _)
    · split
      · exact carries_pure (.bool _)
      · exact htruth
    · exact carries_bind hb fun w hw =>
        carries_located p (carries_ofFault fun _ => within_applyBinary hv hw)
  | .filtered e filters, .filtered he hfilters =>
    carries_bind (carries_eval h hj e he) fun _ hv => carries_evalFilters h hj filters hfilters hv

theorem carries_evalAll (h : Carried host V R) (hj : j.Carry host V R j') :
    (es : List Expr) → (∀ e ∈ es, e.Within V) →
    Carries host R (evalAll j es) (evalAll j' es) fun vs => ∀ v ∈ vs, v.Within V
  | [], _ => carries_pure nofun
  | e :: es, hes =>
    have ⟨he, hes⟩ := List.forall_mem_cons.mp hes
    carries_bind (carries_eval h hj e he) fun _ hv =>
      carries_bind (carries_evalAll h hj es hes) fun _ hvs =>
        carries_pure (List.forall_mem_cons.mpr ⟨hv, hvs⟩)

theorem carries_evalPath (h : Carried host V R) (hj : j.Carry host V R j') :
    (segments : List Segment) → (∀ s ∈ segments, s.Within V) → {v : Value} → v.Within V →
    Carries host R (evalPath j v segments) (evalPath j' v segments) (Value.Within V)
  | [], _, _, hv => carries_implicitCall h hj hv
  | .call args :: rest, hsegments, v, hv => by
    obtain ⟨hcall, hrest⟩ := List.forall_mem_cons.mp hsegments
    rw [evalPath.eq_def, evalPath.eq_def]
    dsimp only
    split
    · exact carries_pure .nil
    · cases hcall with
      | call hargs =>
        refine carries_bind (carries_evalAll h hj args hargs) fun args hargs => ?_
        exact carries_bind (carries_callFunction h hj hv hargs) fun w hw =>
          carries_evalPath h hj rest hrest hw
    · exact carries_fail _ _
  | .attr name :: rest, hsegments, v, hv => by
    obtain ⟨-, hrest⟩ := List.forall_mem_cons.mp hsegments
    have hcalled := carries_implicitCall h hj hv
    have hmember (w : Value) (hw : w.Within V) : Carries host R
        (do evalPath j (← ofFault (w.member name)) rest)
        (do evalPath j' (← ofFault (w.member name)) rest) (Value.Within V) :=
      carries_bind (carries_ofFault fun _ => within_member hw)
        fun _ hu => carries_evalPath h hj rest hrest hu
    match rest, hrest, hmember with
    | .call args :: rest, hrest, hmember =>
      obtain ⟨hcall, hrest⟩ := List.forall_mem_cons.mp hrest
      rw [evalPath, evalPath]
      refine carries_bind hcalled fun w hw => ?_
      split
      · exact carries_pure .nil
      · cases hcall with
        | call hargs =>
          refine carries_bind (carries_evalAll h hj args hargs) fun args hargs => ?_
          exact carries_bind (carries_callMethod h _ name hargs) fun u hu =>
            carries_evalPath h hj rest hrest hu
      · exact hmember w hw
    | [], _, hmember | .attr _ :: _, _, hmember | .index _ :: _, _, hmember
    | .subscript _ :: _, _, hmember =>
      rw [evalPath, evalPath]
      · refine carries_bind hcalled fun w hw => ?_
        split
        · exact carries_pure .nil
        · exact hmember w hw
      · nofun
      · nofun
  | .index n :: rest, hsegments, v, hv => by
    obtain ⟨-, hrest⟩ := List.forall_mem_cons.mp hsegments
    rw [evalPath, evalPath]
    refine carries_bind (carries_implicitCall h hj hv) fun w hw => ?_
    split
    · exact carries_pure .nil
    · exact carries_bind (carries_ofFault fun _ => within_item hw) fun u hu =>
        carries_evalPath h hj rest hrest hu
  | .subscript key :: rest, hsegments, v, hv => by
    obtain ⟨hsubscript, hrest⟩ := List.forall_mem_cons.mp hsegments
    rw [evalPath, evalPath]
    refine carries_bind (carries_implicitCall h hj hv) fun w hw => ?_
    split
    · exact carries_pure .nil
    · cases hsubscript with
      | subscript hkey =>
        refine carries_bind (carries_eval h hj key hkey) fun k hk => ?_
        exact carries_bind (carries_ofFault fun _ => within_subscript hw hk) fun u hu =>
          carries_evalPath h hj rest hrest hu

theorem carries_evalFilters (h : Carried host V R) (hj : j.Carry host V R j') :
    (filters : List FilterCall) → (∀ f ∈ filters, f.Within V) → {v : Value} → v.Within V →
    Carries host R (evalFilters j v filters) (evalFilters j' v filters) (Value.Within V)
  | [], _, _, hv => carries_pure hv
  | .mk name none p f :: rest, hfilters, _, hv =>
    have ⟨_, hrest⟩ := List.forall_mem_cons.mp hfilters
    carries_bind (carries_applyFilter h name p f hv nofun) fun w hw =>
      carries_evalFilters h hj rest hrest hw
  | .mk name (some e) p f :: rest, hfilters, _, hv => by
    obtain ⟨hfilter, hrest⟩ := List.forall_mem_cons.mp hfilters
    cases hfilter with
    | mk harg _ =>
      refine carries_bind (carries_eval h hj e (harg e rfl)) fun arg ha => ?_
      refine carries_bind (carries_applyFilter h name p f hv ?_) fun w hw =>
        carries_evalFilters h hj rest hrest hw
      exact fun | _, rfl => ha

end

end Expressions

end Stencil
