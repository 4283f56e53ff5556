import Stencil.Proofs.Alike.Filters

/-!
# Evaluating expressions that are alike

If the jumps of two renders agree, then expressions that are alike have values that are alike, in
all states that are alike, or they fail alike. Of a call it matters that its function is alike,
whatever the values that it was reached through.
-/

namespace Stencil

open Render

/-- Two jumps that do the same with trees that are alike. -/
structure Jumps.Agree (L : Likeness) (host : Host) (j j' : Jumps) : Prop where
  run : ∀ {body body'}, L.body body body' → Agrees L host (j.run body) (j'.run body')
  runOverridden : ∀ {body body'}, L.body body body' →
    Agrees L host (j.runOverridden body) (j'.runOverridden body')
  eval : ∀ {e e'}, L.expr e e' → Echoes L host (j.eval e) (j'.eval e') L.value

variable {L : Likeness} {host : Host} {j j' : Jumps} {v v' : Value}

/-! ## Calls -/

section Calls

variable (hL : L.Lawful host) (hj : j.Agree L host j')
include hL hj

theorem echoes_bindParameters {params params' : List (String × Option Expr)}
    (hparams : List.Forall₂ (L.entry (Option.Rel L.expr)) params params') {args args' : List Value}
    (hargs : List.Forall₂ L.value args args') :
    Echoes L host (bindParameters j params args) (bindParameters j' params' args')
      (List.Forall₂ (L.entry L.value)) := by
  induction hparams generalizing args args' with
  | nil =>
    unfold bindParameters
    exact echoes_pure .nil
  | @cons p p' _ _ hp _ ih =>
    obtain ⟨name, default⟩ := p
    obtain ⟨name', default'⟩ := p'
    obtain ⟨rfl, hname, hdefault⟩ := hp
    cases hargs with
    | cons hv hargs =>
      unfold bindParameters
      exact echoes_bind (ih hargs) fun _ _ h => echoes_pure (.cons ⟨rfl, hname, hv⟩ h)
    | nil =>
      cases hdefault with
      | none =>
        unfold bindParameters
        exact echoes_bind (ih .nil) fun _ _ h =>
          echoes_pure (.cons ⟨rfl, hname, alike_nil hL.toValued⟩ h)
      | some he =>
        unfold bindParameters
        refine echoes_bind (hj.eval he) fun _ _ hv => echoes_bind (ih .nil) fun _ _ h => ?_
        exact echoes_pure (.cons ⟨rfl, hname, hv⟩ h)

theorem echoes_callMacro {m m' : Macro} (hm : L.callee m m') {args args' : List Value}
    (hargs : List.Forall₂ L.value args args') :
    Echoes L host (callMacro j m args) (callMacro j' m' args') L.value := by
  have hm := hL.callee hm
  unfold callMacro
  rw [hm.name]
  refine echoes_deeper hL _ (echoes_bind (echoes_bindParameters hL hj hm.params hargs) ?_)
  intro bindings bindings' hbindings
  refine echoes_bind (echoes_inScope hL hbindings (echoes_capture (hj.run hm.body))) ?_
  rintro text _ rfl
  exact echoes_pure (alike_safe hL.toValued text)

/-- Only the bodies that the innermost block overrides are within reach. -/
theorem echoes_renderSuper : Echoes L host (renderSuper j) (renderSuper j') L.value := by
  refine echoes_get_bind fun s s' hs => ?_
  have hempty : Echoes L host (pure (Value.safe "")) (pure (Value.safe "")) L.value :=
    echoes_pure (alike_safe hL.toValued "")
  have hsuper {body body' : Body} {rest rest' : List Body} (hbody : L.body body body')
      (hrest : List.Forall₂ L.body rest rest') :
      Echoes L host (do return .safe (← withBlock rest (capture (j.runOverridden body))))
        (do return .safe (← withBlock rest' (capture (j'.runOverridden body')))) L.value := by
    refine echoes_bind (echoes_within (brackets_block hrest)
      (echoes_capture (hj.runOverridden hbody))) ?_
    rintro text _ rfl
    exact echoes_pure (alike_safe hL.toValued text)
  have hoverridden := hs.overridden
  revert hoverridden
  generalize s.blocks = blocks
  generalize s'.blocks = blocks'
  intro hoverridden
  rcases blocks with _ | ⟨_ | ⟨body, rest⟩, _⟩ <;>
    rcases blocks' with _ | ⟨_ | ⟨body', rest'⟩, _⟩ <;> rcases hoverridden with _ | ⟨hbody, hrest⟩
  case cons.cons.cons.cons => exact hsuper hbody hrest
  all_goals exact hempty

theorem echoes_callFunction {f f' : Function} (hf : f.Congruent L f') {args args' : List Value}
    (hargs : List.Forall₂ L.value args args') :
    Echoes L host (callFunction j f args) (callFunction j' f' args') L.value := by
  unfold callFunction
  rw [check_eq hL.toValued hf hargs]
  refine echoes_bind (A := fun _ _ => True) (echoes_ofFault hL ?_) fun _ _ _ => ?_
  · cases f'.check args' with
    | ok => exact .ok trivial
    | error => exact .error rfl
  · have hcallback := hf.callback
    revert hcallback
    generalize f.callback = callback
    generalize f'.callback = callback'
    rintro (hm | _ | ⟨key, hdata⟩)
    · exact echoes_callMacro hL hj hm hargs
    · exact echoes_renderSuper hL hj
    · exact hL.function key hdata hargs

theorem echoes_implicitCall (hv : L.value v v') :
    Echoes L host (evalPath.implicitCall j v) (evalPath.implicitCall j' v') L.value := by
  cases hL.value.mp hv with
  | func hf =>
    unfold evalPath.implicitCall
    dsimp only
    rw [minArgs_eq hf]
    split
    · exact echoes_callFunction hL hj hf .nil
    · exact echoes_pure hv
  | _ => exact echoes_pure hv

omit hj in
theorem echoes_callMethod {r r' : HostRecord} (hr : r.Congruent L r') (name : String)
    {args args' : List Value} (hargs : List.Forall₂ L.value args args') :
    Echoes L host (callMethod r name args) (callMethod r' name args') L.value := by
  unfold callMethod
  rw [hr.methods, hr.kind]
  split
  · exact echoes_read_bind (echoes_ofExcept (hL.method _ hargs))
  · exact echoes_fail hL _

omit hL hj in
/-- An error of a filter is reported where the filter is called. -/
theorem filterResult_error (name : String) (p : Position) (e : Error) :
    filterResult name p (.error e) = throw (.error (e.inFilter name p)) := by
  cases e with
  | execution o _ _ => cases o <;> rfl
  | _ => rfl

omit hj in
theorem echoes_filterResult (name : String) {p p' : Position} (hp : L.position p p')
    {x x' : Except Error Value} (hx : EndAlike L.error L.value x x') :
    Echoes L host (filterResult name p x) (filterResult name p' x') L.value := by
  cases hx with
  | ok hv => exact echoes_pure hv
  | error he =>
    rw [filterResult_error, filterResult_error]
    exact echoes_throw (.error (hL.inFilter name hp he))

omit hj in
theorem echoes_applyFilter (name : String) {p p' : Position} (hp : L.position p p') (f : FilterRef)
    (hv : L.value v v') {arg arg' : Option Value} (harg : Option.Rel L.value arg arg') :
    Echoes L host (applyFilter name p f v arg) (applyFilter name p' f v' arg') L.value := by
  unfold applyFilter
  cases f with
  | custom key => exact echoes_read_bind (echoes_filterResult hL name hp (hL.filter key hv harg))
  | builtin f =>
    have happly := alike_apply hL.toValued f hv harg
    dsimp only
    generalize f.apply v arg = x at happly ⊢
    generalize f.apply v' arg' = x' at happly ⊢
    cases happly with
    | ok hv => exact echoes_pure hv
    | @error fault _ hfault =>
      subst hfault
      cases fault with
      | remainder => exact echoes_throw .exhausted
      | _ => exact echoes_filterResult hL name hp (.error (hL.run _))

end Calls

/-! ## Expressions -/

mutual

theorem echoes_eval (hL : L.Lawful host) (hj : j.Agree L host j') :
    (e e' : Expr) → L.expr e e' → Echoes L host (e.eval j) (e'.eval j') L.value
  | .literal l, _, h => by
    cases hL.expr h
    exact echoes_pure (alike_literal hL.toValued l)
  | .array items, _, h => by
    cases hL.expr h with
    | array hitems =>
      exact echoes_bind (echoes_evalAll hL hj items _ hitems) fun _ _ h =>
        echoes_pure (alike_seq hL.toValued h)
  | .path name segments p, _, h => by
    cases hL.expr h with
    | path hname hsegments hp =>
      refine echoes_located hL hp (echoes_get_bind fun s s' hs => ?_)
      exact echoes_evalPath hL hj segments _ hsegments (alike_lookup hL hs hname)
  | .unary op e p, _, h => by
    cases hL.expr h with
    | unary _ he hp =>
      refine echoes_bind (echoes_eval hL hj e _ he) fun v v' hv => ?_
      exact echoes_located hL hp (echoes_ofFault hL (alike_applyUnary hL.toValued op hv))
  | .binary op a b p, _, h => by
    cases hL.expr h with
    | binary _ ha hb hp =>
      have hb := echoes_eval hL hj b _ hb
      have htruth : Echoes L host (do return Value.bool (← b.eval j).isTruthy)
          (do return Value.bool (← Expr.eval j' _).isTruthy) L.value :=
        echoes_bind hb fun w w' hw =>
          echoes_pure (isTruthy_eq hL.toValued hw ▸ alike_bool hL.toValued _)
      refine echoes_bind (echoes_eval hL hj a _ ha) fun v v' hv => ?_
      rw [isTruthy_eq hL.toValued hv]
      split
      · split
        · exact htruth
        · exact echoes_pure (alike_bool hL.toValued _)
      · split
        · exact echoes_pure (alike_bool hL.toValued _)
        · exact htruth
      · exact echoes_bind hb fun w w' hw =>
          echoes_located hL hp (echoes_ofFault hL (alike_applyBinary hL.toValued op hv hw))
  | .filtered e filters, _, h => by
    cases hL.expr h with
    | filtered he hfilters =>
      exact echoes_bind (echoes_eval hL hj e _ he) fun v v' hv =>
        echoes_evalFilters hL hj filters _ hfilters hv

theorem echoes_evalAll (hL : L.Lawful host) (hj : j.Agree L host j') :
    (es es' : List Expr) → List.Forall₂ L.expr es es' →
    Echoes L host (evalAll j es) (evalAll j' es') (List.Forall₂ L.value)
  | [], _, .nil => echoes_pure .nil
  | e :: es, _, .cons he hes =>
    echoes_bind (echoes_eval hL hj e _ he) fun _ _ hv =>
      echoes_bind (echoes_evalAll hL hj es _ hes) fun _ _ h => echoes_pure (.cons hv h)

theorem echoes_evalPath (hL : L.Lawful host) (hj : j.Agree L host j') :
    (segments segments' : List Segment) → List.Forall₂ (Segment.Congruent L) segments segments' →
    {v v' : Value} → L.value v v' →
    Echoes L host (evalPath j v segments) (evalPath j' v' segments') L.value
  | [], _, .nil, _, _, hv => echoes_implicitCall hL hj hv
  | .call args :: rest, _, .cons (.call hargs) hrest, v, v', hv => by
    have hkind := kind_eq hL.toValued hv
    have hnil : Echoes L host (pure Value.nil) (pure Value.nil) L.value :=
      echoes_pure (alike_nil hL.toValued)
    have hfail : Echoes L host (Render.fail (.notCallable v.kind) : Render Value)
        (Render.fail (.notCallable v'.kind) : Render Value) L.value :=
      hkind ▸ echoes_fail hL _
    rw [evalPath.eq_def, evalPath.eq_def]
    dsimp only
    cases hL.value.mp hv with
    | nil => exact hnil
    | func hf =>
      refine echoes_bind (echoes_evalAll hL hj args _ hargs) fun _ _ hargs => ?_
      exact echoes_bind (echoes_callFunction hL hj hf hargs) fun w w' hw =>
        echoes_evalPath hL hj rest _ hrest hw
    | _ => exact hfail
  | .attr name :: rest, _, .cons (.attr _) hrest, v, v', hv => by
    have hcalled := echoes_implicitCall hL hj hv
    have hnil : Echoes L host (pure Value.nil) (pure Value.nil) L.value :=
      echoes_pure (alike_nil hL.toValued)
    have hmember (w w' : Value) (hw : L.value w w') :=
      echoes_bind (echoes_ofFault hL (alike_member hL.toValued name hw)) fun _ _ hu =>
        echoes_evalPath hL hj rest _ hrest hu
    match rest, hrest, hmember with
    | .call args :: rest, .cons (.call hargs) hrest, hmember =>
      rw [evalPath, evalPath]
      refine echoes_bind hcalled fun w w' hw => ?_
      cases hL.value.mp hw with
      | nil => exact hnil
      | record hr =>
        refine echoes_bind (echoes_evalAll hL hj args _ hargs) fun _ _ hargs => ?_
        exact echoes_bind (echoes_callMethod hL hr name hargs) fun _ _ hu =>
          echoes_evalPath hL hj rest _ hrest hu
      | _ => exact hmember _ _ hw
    | [], .nil, hmember | .attr _ :: _, .cons (.attr _) _, hmember
    | .index _ :: _, .cons (.index _) _, hmember
    | .subscript _ :: _, .cons (.subscript _) _, hmember =>
      rw [evalPath, evalPath]
      · refine echoes_bind hcalled fun w w' hw => ?_
        cases hL.value.mp hw with
        | nil => exact hnil
        | _ => exact hmember _ _ hw
      · nofun
      · nofun
  | .index n :: rest, _, .cons (.index _) hrest, v, v', hv => by
    have hnil : Echoes L host (pure Value.nil) (pure Value.nil) L.value :=
      echoes_pure (alike_nil hL.toValued)
    have hitem {w w' : Value} (hw : L.value w w') :=
      echoes_bind (echoes_ofFault hL (alike_item hL.toValued n hw)) fun _ _ hu =>
        echoes_evalPath hL hj rest _ hrest hu
    rw [evalPath, evalPath]
    refine echoes_bind (echoes_implicitCall hL hj hv) fun w w' hw => ?_
    cases hL.value.mp hw with
    | nil => exact hnil
    | _ => exact hitem hw
  | .subscript key :: rest, _, .cons (.subscript hkey) hrest, v, v', hv => by
    have hnil : Echoes L host (pure Value.nil) (pure Value.nil) L.value :=
      echoes_pure (alike_nil hL.toValued)
    have hsubscript {w w' : Value} (hw : L.value w w') :=
      echoes_bind (echoes_eval hL hj key _ hkey) fun _ _ hkey =>
        echoes_bind (echoes_ofFault hL (alike_subscript hL.toValued hw hkey)) fun _ _ hu =>
          echoes_evalPath hL hj rest _ hrest hu
    rw [evalPath, evalPath]
    refine echoes_bind (echoes_implicitCall hL hj hv) fun w w' hw => ?_
    cases hL.value.mp hw with
    | nil => exact hnil
    | _ => exact hsubscript hw

theorem echoes_evalFilters (hL : L.Lawful host) (hj : j.Agree L host j') :
    (filters filters' : List FilterCall) →
    List.Forall₂ (FilterCall.Congruent L) filters filters' → {v v' : Value} → L.value v v' →
    Echoes L host (evalFilters j v filters) (evalFilters j' v' filters') L.value
  | [], _, .nil, _, _, hv => echoes_pure hv
  | .mk name none p f :: rest, _, .cons (.mk _ _ .none hp) hrest, _, _, hv =>
    echoes_bind (echoes_applyFilter hL name hp f hv .none) fun w w' hw =>
      echoes_evalFilters hL hj rest _ hrest hw
  | .mk name (some e) p f :: rest, _, .cons (.mk _ _ (.some he) hp) hrest, _, _, hv =>
    echoes_bind (echoes_eval hL hj e _ he) fun arg arg' harg =>
      echoes_bind (echoes_applyFilter hL name hp f hv (.some harg)) fun w w' hw =>
        echoes_evalFilters hL hj rest _ hrest hw

end

end Stencil
