import Stencil.Proofs.Render.Uphold

/-!
# Trees uphold the rules

If the jumps of a render uphold the rules, so does the evaluation of every expression and the
execution of all nodes that obey them. A jump may be allowed only so deep, in such a chain, or from
nodes with so many bodies around them; a budget says where.
-/

namespace Stencil

/-- Where something may be evaluated or executed. -/
structure Budget where
  /-- The depths at which expressions may be evaluated. -/
  eval : Nat → Prop
  /-- The depths at which any body may be run. -/
  run : Nat → Prop
  /-- The depths and chains in which nodes may be executed that belong to a template with the given
  blocks and below which so many bodies nest. -/
  exec : Nat → List Template → Table Body → Nat → Prop

/-- A budget that goes down with what is entered. -/
structure Budget.Falls (g : Realm) (b : Budget) : Prop where
  eval_of_run : ∀ {d}, b.run d → b.eval d
  deeper : ∀ {d}, b.eval d → d < g.limit → b.run (d + 1)
  eval_of_exec : ∀ {d c blocks room}, b.exec d c blocks room → b.eval d
  inner : ∀ {d c blocks inner room}, inner < room → b.exec d c blocks room → b.exec d c blocks inner

open Render

/-- Two jumps, of which the first upholds the rules within the budget. -/
structure Jumps.Uphold (g : Realm) (host : Host) (b : Budget) (j j' : Jumps) : Prop where
  eval : ∀ {d c e}, b.run d → e.Obeys g.rules →
    Upholds g host d c (j.eval e) (j'.eval e) (Value.Obeys g.rules)
  run : ∀ {d c blocks body}, b.run d → Body.Obeys g.rules blocks g.rules.nesting body →
    Upholds g host d c (j.run body) (j'.run body) fun _ => True
  /-- The youngest body of a block of which nodes know the body `own`. -/
  block : ∀ {d c blocks inner room name own body overridden}, b.exec d c blocks room →
    inner < room → g.rules.block blocks name own → Body.Obeys g.rules blocks inner own →
      bodiesOf name c = body :: overridden →
        Upholds g host d c (j.run body) (j'.run body) fun _ => True
  overridden : ∀ {d c blocks body}, b.eval d → Body.Obeys g.rules blocks g.rules.nesting body →
    Upholds g host d c (j.runOverridden body) (j'.runOverridden body) fun _ => True

variable {g : Realm} {host : Host} {b : Budget} {j j' : Jumps} {d : Nat} {c : List Template}

/-! ## Calls -/

section Calls

variable (hg : g.Lawful) (hb : b.Falls g) (hj : j.Uphold g host b j')
include hg hb hj

omit hg hb in
theorem upholds_bindParameters (hrun : b.run d) {params : List (String × Option Expr)}
    {args : List Value} (hparams : ∀ p ∈ params, ∀ e ∈ p.2, e.Obeys g.rules)
    (hargs : ∀ v ∈ args, v.Obeys g.rules) :
    Upholds g host d c (bindParameters j params args) (bindParameters j' params args)
      fun bindings => ∀ e ∈ bindings, e.2.Obeys g.rules := by
  induction params, args using bindParameters.induct with
  | case1 => exact upholds_pure nofun
  | case2 name default params v args ih =>
    obtain ⟨hv, hargs⟩ := List.forall_mem_cons.mp hargs
    unfold bindParameters
    refine upholds_bind (ih (List.forall_mem_cons.mp hparams).2 hargs) fun bindings hbindings => ?_
    exact upholds_pure (List.forall_mem_cons.mpr ⟨hv, hbindings⟩)
  | case3 name params ih =>
    unfold bindParameters
    refine upholds_bind (ih (List.forall_mem_cons.mp hparams).2 hargs) fun bindings hbindings => ?_
    exact upholds_pure (List.forall_mem_cons.mpr ⟨.nil, hbindings⟩)
  | case4 name e params ih =>
    obtain ⟨he, hparams⟩ := List.forall_mem_cons.mp hparams
    unfold bindParameters
    refine upholds_bind (hj.eval hrun (he e rfl)) fun v hv => ?_
    refine upholds_bind (ih hparams hargs) fun bindings hbindings => ?_
    exact upholds_pure (List.forall_mem_cons.mpr ⟨hv, hbindings⟩)

theorem upholds_callMacro (heval : b.eval d) {m : Macro} (hm : m.Obeys g.rules) {args : List Value}
    (hargs : ∀ v ∈ args, v.Obeys g.rules) :
    Upholds g host d c (callMacro j m args) (callMacro j' m args) (Value.Obeys g.rules) := by
  cases hm with
  | intro blocks hparams hbody =>
    refine upholds_deeper hg fun hlimit => ?_
    have hrun := hb.deeper heval hlimit
    refine upholds_bind (upholds_bindParameters hj hrun hparams hargs) fun values hvalues => ?_
    have hcall := upholds_inScope (c := c) hvalues (upholds_capture (hj.run hrun hbody))
    exact upholds_bind hcall fun text htext => upholds_pure (.safe htext)

omit hg hb in
theorem upholds_renderSuper (heval : b.eval d) :
    Upholds g host d c (renderSuper j) (renderSuper j') (Value.Obeys g.rules) := by
  refine upholds_get_bind fun s hs => ?_
  split
  · rename_i body rest frames hblocks
    have hframe := hs.blocks (body :: rest) (hblocks ▸ List.mem_cons_self ..)
    obtain ⟨⟨blocks, hbody⟩, hrest⟩ := List.forall_mem_cons.mp hframe
    have hcaptured := upholds_capture (hj.overridden (c := c) heval hbody)
    exact upholds_bind (upholds_withBlock hrest hcaptured) fun text htext =>
      upholds_pure (.safe htext)
  · exact upholds_pure (.safe Rules.text_empty)

theorem upholds_callFunction (heval : b.eval d) {f : Function} (hf : f.Obeys g.rules)
    {args : List Value} (hargs : ∀ v ∈ args, v.Obeys g.rules) :
    Upholds g host d c (callFunction j f args) (callFunction j' f args) (Value.Obeys g.rules) := by
  refine upholds_bind (A := fun _ => True) (upholds_ofFault hg fun _ _ => trivial) fun _ _ => ?_
  unfold Function.Obeys at hf
  cases hcallback : f.callback with
  | body m =>
    rw [hcallback] at hf
    exact upholds_callMacro hg hb hj heval hf hargs
  | super => exact upholds_renderSuper hj heval
  | host key data =>
    rw [hcallback] at hf
    exact hf.elim

theorem upholds_implicitCall (heval : b.eval d) {v : Value} (hv : v.Obeys g.rules) :
    Upholds g host d c (evalPath.implicitCall j v) (evalPath.implicitCall j' v)
      (Value.Obeys g.rules) := by
  unfold evalPath.implicitCall
  split
  · split
    · cases hv with
      | func hf => exact upholds_callFunction hg hb hj heval hf nofun
    · exact upholds_pure hv
  · exact upholds_pure hv

omit hb hj in
/-- Filters keep to the rules, which allow none of the host. -/
theorem upholds_applyFilter {name : String} {p : Position} {f : FilterRef}
    (hf : g.rules.filter name f) {v : Value} (hv : v.Obeys g.rules) {arg : Option Value}
    (harg : ∀ a ∈ arg, a.Obeys g.rules) :
    Upholds g host d c (applyFilter name p f v arg) (applyFilter name p f v arg)
      (Value.Obeys g.rules) := by
  obtain ⟨f, rfl, hmarkup⟩ := hg.filter name f hf
  unfold applyFilter
  dsimp only
  split
  · rename_i w happly
    exact upholds_pure (obeys_apply hmarkup hv harg happly)
  · exact upholds_crash hg
  · exact upholds_throw hg _

end Calls

/-! ## Expressions -/

mutual

theorem upholds_eval (hg : g.Lawful) (hb : b.Falls g) (hj : j.Uphold g host b j')
    (heval : b.eval d) :
    (e : Expr) → e.Obeys g.rules →
      Upholds g host d c (e.eval j) (e.eval j') (Value.Obeys g.rules)
  | .literal l, _ => upholds_pure (by cases l <;> constructor)
  | .array items, .array hitems =>
    upholds_bind (upholds_evalAll hg hb hj heval items hitems) fun _ hvalues =>
      upholds_pure (.seq hvalues)
  | .path name segments p, .path hsegments =>
    upholds_located hg p (upholds_get_bind fun _ hs =>
      upholds_evalPath hg hb hj heval segments hsegments _ (hs.lookup name))
  | .unary op e p, .unary he =>
    upholds_bind (upholds_eval hg hb hj heval e he) fun _ _ =>
      upholds_located hg p (upholds_ofFault hg fun _ h => obeys_unary h)
  | .binary op a b p, .binary hea heb => by
    refine upholds_bind (upholds_eval hg hb hj heval a hea) fun v _ => ?_
    have hright := upholds_eval hg hb hj heval b heb
    split
    · split
      · exact upholds_bind hright fun _ _ => upholds_pure (.bool _)
      · exact upholds_pure (.bool _)
    · split
      · exact upholds_pure (.bool _)
      · exact upholds_bind hright fun _ _ => upholds_pure (.bool _)
    · exact upholds_bind hright fun _ _ =>
        upholds_located hg p (upholds_ofFault hg fun _ h => obeys_binary h)
  | .filtered e filters, .filtered he hfilters =>
    upholds_bind (upholds_eval hg hb hj heval e he) fun v hv =>
      upholds_evalFilters hg hb hj heval filters hfilters v hv

theorem upholds_evalAll (hg : g.Lawful) (hb : b.Falls g) (hj : j.Uphold g host b j')
    (heval : b.eval d) : (es : List Expr) → (∀ e ∈ es, e.Obeys g.rules) →
      Upholds g host d c (evalAll j es) (evalAll j' es) fun vs => ∀ v ∈ vs, v.Obeys g.rules
  | [], _ => upholds_pure nofun
  | e :: es, hes => by
    obtain ⟨he, hes⟩ := List.forall_mem_cons.mp hes
    refine upholds_bind (upholds_eval hg hb hj heval e he) fun v hv => ?_
    refine upholds_bind (upholds_evalAll hg hb hj heval es hes) fun vs hvs => ?_
    exact upholds_pure (List.forall_mem_cons.mpr ⟨hv, hvs⟩)

theorem upholds_evalPath (hg : g.Lawful) (hb : b.Falls g) (hj : j.Uphold g host b j')
    (heval : b.eval d) : (segments : List Segment) → (∀ s ∈ segments, s.Obeys g.rules) →
      (v : Value) → v.Obeys g.rules →
        Upholds g host d c (evalPath j v segments) (evalPath j' v segments) (Value.Obeys g.rules)
  | [], _, v, hv => upholds_implicitCall hg hb hj heval hv
  | .call args :: rest, hsegments, v, hv => by
    obtain ⟨hcall, hrest⟩ := List.forall_mem_cons.mp hsegments
    cases hcall with
    | call hargs =>
      rw [evalPath.eq_def, evalPath.eq_def]
      dsimp only
      split
      · exact upholds_pure .nil
      · cases hv with
        | func hf =>
          refine upholds_bind (upholds_evalAll hg hb hj heval args hargs) fun values hvalues => ?_
          refine upholds_bind (upholds_callFunction hg hb hj heval hf hvalues) fun w hw => ?_
          exact upholds_evalPath hg hb hj heval rest hrest w hw
      · exact upholds_fail hg _
  | .attr name :: rest, hsegments, v, hv => by
    obtain ⟨-, hrest⟩ := List.forall_mem_cons.mp hsegments
    have hgo := upholds_evalPath hg hb hj heval rest hrest
    match rest, hrest, hgo with
    | .call args :: rest, hrest, hgo =>
      rw [evalPath, evalPath]
      refine upholds_bind (upholds_implicitCall hg hb hj heval hv) fun w hw => ?_
      split
      · exact upholds_pure .nil
      · cases hw
      · exact upholds_bind (upholds_ofFault hg fun _ h => obeys_member hw h) hgo
    | [], _, hgo | .attr _ :: _, _, hgo | .index _ :: _, _, hgo | .subscript _ :: _, _, hgo =>
      rw [evalPath, evalPath]
      · refine upholds_bind (upholds_implicitCall hg hb hj heval hv) fun w hw => ?_
        split
        · exact upholds_pure .nil
        · exact upholds_bind (upholds_ofFault hg fun _ h => obeys_member hw h) hgo
      · nofun
      · nofun
  | .index n :: rest, hsegments, v, hv => by
    obtain ⟨-, hrest⟩ := List.forall_mem_cons.mp hsegments
    rw [evalPath, evalPath]
    refine upholds_bind (upholds_implicitCall hg hb hj heval hv) fun w hw => ?_
    split
    · exact upholds_pure .nil
    · exact upholds_bind (upholds_ofFault hg fun _ h => obeys_item hw h)
        fun w hw => upholds_evalPath hg hb hj heval rest hrest w hw
  | .subscript key :: rest, hsegments, v, hv => by
    obtain ⟨hsubscript, hrest⟩ := List.forall_mem_cons.mp hsegments
    cases hsubscript with
    | subscript hkey =>
      rw [evalPath, evalPath]
      refine upholds_bind (upholds_implicitCall hg hb hj heval hv) fun w hw => ?_
      split
      · exact upholds_pure .nil
      · refine upholds_bind (upholds_eval hg hb hj heval key hkey) fun _ _ => ?_
        exact upholds_bind (upholds_ofFault hg fun _ h => obeys_subscript hw h)
          fun w hw => upholds_evalPath hg hb hj heval rest hrest w hw

theorem upholds_evalFilters (hg : g.Lawful) (hb : b.Falls g) (hj : j.Uphold g host b j')
    (heval : b.eval d) : (filters : List FilterCall) → (∀ f ∈ filters, f.Obeys g.rules) →
      (v : Value) → v.Obeys g.rules →
        Upholds g host d c (evalFilters j v filters) (evalFilters j' v filters)
          (Value.Obeys g.rules)
  | [], _, _, hv => upholds_pure hv
  | .mk name none p f :: rest, hfilters, v, hv => by
    obtain ⟨hcall, hrest⟩ := List.forall_mem_cons.mp hfilters
    cases hcall with
    | mk hf _ =>
      refine upholds_bind (upholds_applyFilter hg hf hv nofun) fun w hw => ?_
      exact upholds_evalFilters hg hb hj heval rest hrest w hw
  | .mk name (some e) p f :: rest, hfilters, v, hv => by
    obtain ⟨hcall, hrest⟩ := List.forall_mem_cons.mp hfilters
    cases hcall with
    | mk hf harg =>
      refine upholds_bind (upholds_eval hg hb hj heval e (harg e rfl)) fun a ha => ?_
      refine upholds_bind (upholds_applyFilter hg hf hv ?_) fun w hw => ?_
      · rintro _ ⟨⟩
        exact ha
      · exact upholds_evalFilters hg hb hj heval rest hrest w hw

end

/-! ## Steps that stay in the tree -/

section Steps

variable (hg : g.Lawful) (hb : b.Falls g) (hj : j.Uphold g host b j')
include hg hb hj

theorem upholds_evalBindings (heval : b.eval d) {bindings : List (String × Expr)}
    (hbindings : ∀ e ∈ bindings, e.2.Obeys g.rules) :
    Upholds g host d c (evalBindings j bindings) (evalBindings j' bindings)
      fun values => ∀ e ∈ values, e.2.Obeys g.rules := by
  induction bindings with
  | nil => exact upholds_pure nofun
  | cons binding rest ih =>
    obtain ⟨he, hrest⟩ := List.forall_mem_cons.mp hbindings
    refine upholds_bind (upholds_eval hg hb hj heval binding.2 he) fun v hv => ?_
    refine upholds_bind (ih hrest) fun values hvalues => ?_
    exact upholds_pure (List.forall_mem_cons.mpr ⟨hv, hvalues⟩)

theorem upholds_firstTrue (heval : b.eval d) {es : List Expr} (hes : ∀ e ∈ es, e.Obeys g.rules) :
    Upholds g host d c (firstTrue j es) (firstTrue j' es)
      fun found => ∀ v ∈ found, v.Obeys g.rules := by
  induction es with
  | nil => exact upholds_pure nofun
  | cons e es ih =>
    obtain ⟨he, hes⟩ := List.forall_mem_cons.mp hes
    refine upholds_bind (upholds_eval hg hb hj heval e he) fun v hv => ?_
    split
    · refine upholds_pure ?_
      rintro _ ⟨⟩
      exact hv
    · exact ih hes

theorem upholds_ratioNumber (heval : b.eval d) (what : String) {e : Expr} (he : e.Obeys g.rules) :
    Upholds g host d c (ratioNumber j what e) (ratioNumber j' what e) fun _ => True := by
  refine upholds_bind (upholds_eval hg hb hj heval e he) fun v _ => ?_
  split
  · exact upholds_pure trivial
  · exact upholds_fail hg _

omit hb hj in
theorem upholds_templateName (fault : String → RunFault) (v : Value) :
    Upholds g host d c (templateName fault v) (templateName fault v) fun _ => True := by
  unfold templateName
  split
  · exact upholds_pure trivial
  · exact upholds_fail hg _

theorem upholds_find (heval : b.eval d) {target : Target} (htarget : target.Obeys g.rules)
    (base : String) (ifExists : Bool) :
    Upholds g host d c (target.find? j base ifExists) (target.find? j' base ifExists)
      fun found => ∀ t ∈ found, t.Obeys g.rules := by
  cases htarget with
  | linked ht =>
    refine upholds_pure ?_
    rintro _ ⟨⟩
    exact ht
  | named he =>
    refine upholds_bind (upholds_eval hg hb hj heval _ he) fun v _ => ?_
    refine upholds_bind (upholds_templateName hg _ v) fun name _ => ?_
    refine upholds_bind (upholds_requireSet hg) fun _ _ => ?_
    refine upholds_bind (upholds_attempt (upholds_load hg _ name)) fun result hresult => ?_
    split
    · refine upholds_pure ?_
      rintro _ ⟨⟩
      exact hresult _ rfl
    · split
      · exact upholds_pure nofun
      · exact upholds_throw hg _

/-! ## Templates -/

theorem upholds_parent (heval : b.eval d) {t : Template} (ht : t.Obeys g.rules) :
    Upholds g host d c (t.parent? j) (t.parent? j')
      fun parent => ∀ t ∈ parent, t.Obeys g.rules := by
  cases ht with
  | intro _ _ hparent _ _ _ =>
    unfold Template.parent?
    split
    · exact upholds_pure nofun
    · rename_i parent heq
      cases hparent _ heq with
      | linked ht =>
        refine upholds_pure ?_
        rintro _ ⟨⟩
        exact ht
    · rename_i e p heq
      cases hparent _ heq with
      | named he =>
        refine upholds_bind (upholds_located hg p ?_) fun name (_ : True) => ?_
        · exact upholds_bind (upholds_eval hg hb hj heval e he) fun v _ =>
            upholds_templateName hg _ v
        refine upholds_bind (upholds_requireSet hg) fun _ _ => upholds_located hg p ?_
        refine upholds_bind (upholds_attempt (upholds_load hg _ name)) fun result hresult => ?_
        split
        · refine upholds_pure ?_
          rintro _ ⟨⟩
          exact hresult _ rfl
        · exact upholds_throw hg _

/-- The ancestors of a template obey the rules, and there are not too many. -/
theorem upholds_ancestry (heval : b.eval d) {youngest : Template} {limit room : Nat}
    {oldest : Template} {chain : List Template} (holdest : oldest.Obeys g.rules)
    (hchain : ∀ t ∈ chain, t.Obeys g.rules) (hroom : chain.length + room ≤ g.chainLimit) :
    Upholds g host d c (ancestry j youngest limit room oldest chain)
      (ancestry j' youngest limit room oldest chain)
      fun chain => (∀ t ∈ chain, t.Obeys g.rules) ∧ chain.length ≤ g.chainLimit := by
  induction room generalizing oldest chain with
  | zero =>
    unfold ancestry
    refine upholds_bind (upholds_parent hg hb hj heval holdest) fun parent _ => ?_
    split
    · exact upholds_pure ⟨hchain, hroom⟩
    · split <;> exact upholds_fail hg _
  | succ room ih =>
    unfold ancestry
    refine upholds_bind (upholds_parent hg hb hj heval holdest) fun parent hparent => ?_
    split
    · exact upholds_pure ⟨hchain, by omega⟩
    · split
      · exact upholds_fail hg _
      · have hnew := hparent _ rfl
        refine ih hnew (List.forall_mem_cons.mpr ⟨hnew, hchain⟩) ?_
        rw [List.length_cons]
        omega

/-- A template is rendered within the budget for any body. -/
theorem upholds_render (hrun : b.run d) {t : Template} (ht : t.Obeys g.rules) :
    Upholds g host d c (t.render j) (t.render j') fun _ => True := by
  have hchain : Upholds g host d c (t.chain j) (t.chain j')
      fun chain => (∀ t ∈ chain, t.Obeys g.rules) ∧ chain.length ≤ g.chainLimit := by
    refine upholds_get_bind fun s hs => ?_
    refine upholds_ancestry hg hb hj (hb.eval_of_run hrun) ht (List.forall_mem_singleton.mpr ht) ?_
    rw [hs.limit, List.length_singleton]
    unfold Realm.chainLimit
    omega
  refine upholds_bind hchain fun chain hchain => ?_
  split
  · exact upholds_pure trivial
  · rename_i oldest younger
    cases (List.forall_mem_cons.mp hchain.1).1 with
    | intro _ hnodes _ _ _ _ =>
      exact upholds_withChain hchain.1 hchain.2 (hj.run hrun hnodes)

omit hg hb hj in
/-- The bodies of a block in the templates of a chain obey the rules. -/
theorem obeys_bodiesOf {name : String} {chain : List Template}
    (hchain : ∀ t ∈ chain, t.Obeys g.rules) :
    ∀ body ∈ bodiesOf name chain, ∃ blocks, Body.Obeys g.rules blocks g.rules.nesting body := by
  intro body hbody
  obtain ⟨t, ht, hblock⟩ := List.mem_filterMap.mp (List.mem_reverse.mp hbody)
  cases hchain t ht with
  | intro _ _ _ _ hbodies _ => exact ⟨t.blocks, hbodies _ (Table.mem_of_get? hblock)⟩

omit hg hb in
theorem upholds_renderBlock {blocks : Table Body} {inner room : Nat} {name : String} {body : Body}
    (hexec : b.exec d c blocks room) (hroom : inner < room)
    (hblock : g.rules.block blocks name body) (hbody : Body.Obeys g.rules blocks inner body)
    {own own' : Render Unit} (hown : Upholds g host d c own own' fun _ => True) :
    Upholds g host d c (renderBlock j name own) (renderBlock j' name own') fun _ => True := by
  refine upholds_get_bind fun s hs => ?_
  rw [hs.chain]
  have hbodies : ∀ body ∈ bodiesOf name c, _ := obeys_bodiesOf hs.ancestors
  split
  · exact upholds_withBlock nofun hown
  · rename_i youngest overridden heq
    refine upholds_withBlock ?_ (hj.block hexec hroom hblock hbody heq)
    exact (List.forall_mem_cons.mp (heq ▸ hbodies)).2

/-! ## Nodes -/

omit hb hj in
theorem upholds_visitsOf {v : Value} (hv : v.Obeys g.rules) (two reversed sorted : Bool) :
    Upholds g host d c (visitsOf v two reversed sorted) (visitsOf v two reversed sorted)
      fun visits => ∀ visit ∈ visits, visit.1.Obeys g.rules ∧ visit.2.Obeys g.rules := by
  refine upholds_read_bind ?_
  split
  · exact upholds_pure (obeys_visits hv ‹_›)
  · exact upholds_crash hg

omit hg hb hj in
theorem upholds_forEach (first : String) (second : Option String) {parent : Value} (total : Nat)
    (hparent : parent.Obeys g.rules) {body body' : Render Unit}
    (hbody : Upholds g host d c body body' fun _ => True) (i : Nat)
    {visits : List (Value × Value)}
    (hvisits : ∀ visit ∈ visits, visit.1.Obeys g.rules ∧ visit.2.Obeys g.rules) :
    Upholds g host d c (forEach first second parent total body i visits)
      (forEach first second parent total body' i visits) fun _ => True := by
  induction visits generalizing i with
  | nil => exact upholds_pure trivial
  | cons visit visits ih =>
    obtain ⟨hvisit, hvisits⟩ := List.forall_mem_cons.mp hvisits
    have hbindings := obey_loopBindings first second (obeys_counters i total hparent) hvisit
    exact upholds_bind (upholds_inScope hbindings hbody) fun _ _ => ih (i + 1) hvisits

omit hg hb hj in
theorem upholds_import {macros : List (String × Macro)}
    (hmacros : ∀ m ∈ macros, m.2.Obeys g.rules) :
    Upholds g host d c
      (modify fun s => macros.foldl (fun s e => s.bind e.1 (.func (.ofMacro e.2))) s)
      (modify fun s => macros.foldl (fun s e => s.bind e.1 (.func (.ofMacro e.2))) s)
      fun _ => True := by
  refine upholds_modify fun s hs => ?_
  induction macros generalizing s with
  | nil => exact hs
  | cons e macros ih =>
    obtain ⟨hm, hmacros⟩ := List.forall_mem_cons.mp hmacros
    exact ih hmacros _ (hs.bind e.1 (.func hm))

end Steps

mutual

theorem upholds_execNodes (hg : g.Lawful) (hb : b.Falls g) (hj : j.Uphold g host b j')
    {blocks : Table Body} {room : Nat} (hexec : b.exec d c blocks room) :
    (nodes : List Node) → (∀ n ∈ nodes, n.Obeys g.rules blocks room) →
      Upholds g host d c (execNodes j nodes) (execNodes j' nodes) fun _ => True
  | [], _ => upholds_pure trivial
  | n :: ns, hnodes => by
    obtain ⟨hn, hns⟩ := List.forall_mem_cons.mp hnodes
    refine upholds_bind (upholds_exec hg hb hj hexec n hn) fun _ _ => ?_
    exact upholds_execNodes hg hb hj hexec ns hns

theorem upholds_exec (hg : g.Lawful) (hb : b.Falls g) (hj : j.Uphold g host b j')
    {blocks : Table Body} {room : Nat} (hexec : b.exec d c blocks room) :
    (n : Node) → n.Obeys g.rules blocks room →
      Upholds g host d c (n.exec j) (n.exec j') fun _ => True
  | .text _, .text hs => upholds_write hs hg.error
  | .output p e, .output he =>
    upholds_located hg p (upholds_bind (upholds_eval hg hb hj (hb.eval_of_exec hexec) e he)
      fun _ hv => upholds_writeValue hg hv)
  | .tag _ p statement, .tag _ hstatement =>
    upholds_located hg p (upholds_statement hg hb hj hexec statement hstatement)

theorem upholds_statement (hg : g.Lawful) (hb : b.Falls g) (hj : j.Uphold g host b j')
    {blocks : Table Body} {room : Nat} (hexec : b.exec d c blocks room) :
    (statement : Statement) → statement.Obeys g.rules blocks room →
      Upholds g host d c (statement.exec j) (statement.exec j') fun _ => True
  | .branch branches otherwise, .branch hroom hconditions hbodies hotherwise => by
    have hinner := hb.inner hroom hexec
    have ho := upholds_execOptional hg hb hj hinner otherwise hotherwise
    exact upholds_execBranches hg hb hj hinner ho branches hconditions hbodies
  | .compare lhs rhs negated body otherwise, .compare hroom hlhs hrhs hbody hotherwise => by
    have hinner := hb.inner hroom hexec
    refine upholds_bind (upholds_eval hg hb hj (hb.eval_of_exec hexec) lhs hlhs) fun a _ => ?_
    refine upholds_bind (upholds_eval hg hb hj (hb.eval_of_exec hexec) rhs hrhs) fun b _ => ?_
    split
    · exact upholds_execNodes hg hb hj hinner body hbody
    · exact upholds_execOptional hg hb hj hinner otherwise hotherwise
  | .loop first second source reversed sorted body empty, .loop hroom hsource hbody hempty => by
    have hinner := hb.inner hroom hexec
    refine upholds_bind (upholds_eval hg hb hj (hb.eval_of_exec hexec) source hsource)
      fun v hv => ?_
    refine upholds_bind (upholds_visitsOf hg hv _ _ _) fun visits hvisits => ?_
    split
    · exact upholds_execOptional hg hb hj hinner empty hempty
    · refine upholds_get_bind fun s hs => ?_
      have hbody := upholds_execNodes hg hb hj hinner body hbody
      exact upholds_forEach first second _ (hs.lookup "forloop") hbody 0 hvisits
  | .cycle values target silent, .cycle hvalues => by
    refine upholds_get_bind fun s _ => ?_
    have hvalue : ∀ i, (values.getD i default).Obeys g.rules := by
      intro i
      rw [List.getD_eq_getElem?_getD]
      cases hi : values[i]? with
      | none => exact .literal _
      | some e => exact hvalues e (List.mem_of_getElem? hi)
    refine upholds_bind (upholds_eval hg hb hj (hb.eval_of_exec hexec) _ (hvalue _)) fun v hv => ?_
    have hwrite : Upholds g host d c (if !silent then writeValue v else pure ())
        (if !silent then writeValue v else pure ()) fun _ => True := by
      split
      · exact upholds_writeValue hg hv
      · exact upholds_pure trivial
    cases target with
    | none => exact hwrite
    | some name => exact upholds_bind (upholds_assign name hv) fun _ _ => hwrite
  | .firstOf values, .firstOf hvalues => by
    refine upholds_bind (upholds_firstTrue hg hb hj (hb.eval_of_exec hexec) hvalues)
      fun found hfound => ?_
    split
    · exact upholds_writeValue hg (hfound _ rfl)
    · exact upholds_pure trivial
  | .block name body, .block hroom hblock hbody =>
    upholds_renderBlock hj hexec hroom hblock hbody
      (upholds_execNodes hg hb hj (hb.inner hroom hexec) body hbody)
  | .includes target base bindings only ifExists, .includes htarget hbindings => by
    have heval := hb.eval_of_exec hexec
    refine upholds_bind (upholds_find hg hb hj heval htarget base ifExists) fun found hfound => ?_
    split
    · have ht := hfound _ rfl
      refine upholds_bind (upholds_evalBindings hg hb hj heval hbindings) fun values hvalues => ?_
      refine upholds_deeper hg fun hlimit => ?_
      have hrender := upholds_render (c := c) hg hb hj (hb.deeper heval hlimit) ht
      split
      · exact upholds_isolated hvalues hrender
      · exact upholds_inScope hvalues hrender
    · exact upholds_pure trivial
  | .imports macros, .imports hmacros => upholds_import hmacros
  | .bind bindings body, .bind hroom hbindings hbody => by
    refine upholds_bind (upholds_evalBindings hg hb hj (hb.eval_of_exec hexec) hbindings)
      fun values hvalues => ?_
    exact upholds_inScope hvalues
      (upholds_execNodes hg hb hj (hb.inner hroom hexec) body hbody)
  | .assign name e, .assign he =>
    upholds_bind (upholds_eval hg hb hj (hb.eval_of_exec hexec) e he)
      fun _ hv => upholds_assign name hv
  | .define m, .define hm => upholds_assign m.name (.func hm)
  | .escaping enabled body, .escaping hroom henabled hbody =>
    upholds_withAutoescape henabled
      (upholds_execNodes hg hb hj (hb.inner hroom hexec) body hbody)
  | .filtering filters body, .filtering hroom hfilters hbody => by
    have hbody := upholds_execNodes hg hb hj (hb.inner hroom hexec) body hbody
    refine upholds_bind (upholds_capture hbody) fun text htext => ?_
    refine upholds_bind (upholds_evalFilters hg hb hj (hb.eval_of_exec hexec) filters hfilters _
      (.safe htext)) fun v hv => ?_
    exact upholds_writeValue hg hv
  | .spaceless body, .spaceless hroom hbody => by
    have hbody := upholds_execNodes hg hb hj (hb.inner hroom hexec) body hbody
    refine upholds_bind (upholds_capture hbody) fun text htext => upholds_write ?_ hg.error
    refine Rules.text_of_subset htext ?_
    unfold Text.spaceless
    rw [String.toList_ofList]
    exact List.Subset.trans (Text.trim_subset _) (Text.dropGaps_subset _)
  | .nothing, .nothing => upholds_pure trivial
  | .now format fake, .now => by
    refine upholds_read_bind ?_
    dsimp only
    split
    · exact upholds_writeValue hg (.str _)
    · exact upholds_fail hg _
  | .write text, .write htext => upholds_write htext hg.error
  | .ratio value most width target, .ratio hvalue hmost hwidth => by
    have heval := hb.eval_of_exec hexec
    refine upholds_bind (upholds_ratioNumber hg hb hj heval _ hvalue) fun value _ => ?_
    refine upholds_bind (upholds_ratioNumber hg hb hj heval _ hmost) fun most _ => ?_
    refine upholds_bind (upholds_ratioNumber hg hb hj heval _ hwidth) fun width _ => ?_
    dsimp only
    split
    · exact upholds_assign _ (.int _)
    · exact upholds_write (.inr (Text.plain_toString _)) hg.error
  | .custom _, .custom hcustom _ _ => (hg.custom hcustom).elim

theorem upholds_execBranches (hg : g.Lawful) (hb : b.Falls g) (hj : j.Uphold g host b j')
    {blocks : Table Body} {room : Nat} (hexec : b.exec d c blocks room)
    {otherwise otherwise' : Render Unit}
    (ho : Upholds g host d c otherwise otherwise' fun _ => True) :
    (branches : List (Expr × List Node)) → (∀ b ∈ branches, b.1.Obeys g.rules) →
      (∀ b ∈ branches, ∀ n ∈ b.2, n.Obeys g.rules blocks room) →
        Upholds g host d c (execBranches j otherwise branches)
          (execBranches j' otherwise' branches) fun _ => True
  | [], _, _ => ho
  | ⟨condition, body⟩ :: branches, hconditions, hbodies => by
    obtain ⟨hcondition, hconditions⟩ := List.forall_mem_cons.mp hconditions
    obtain ⟨hbody, hbodies⟩ := List.forall_mem_cons.mp hbodies
    refine upholds_bind (upholds_eval hg hb hj (hb.eval_of_exec hexec) condition hcondition)
      fun v _ => ?_
    split
    · exact upholds_execNodes hg hb hj hexec body hbody
    · exact upholds_execBranches hg hb hj hexec ho branches hconditions hbodies

theorem upholds_execOptional (hg : g.Lawful) (hb : b.Falls g) (hj : j.Uphold g host b j')
    {blocks : Table Body} {room : Nat} (hexec : b.exec d c blocks room) :
    (body : Option (List Node)) → (∀ nodes ∈ body, ∀ n ∈ nodes, Node.Obeys g.rules blocks room n) →
      Upholds g host d c (execOptional j body) (execOptional j' body) fun _ => True
  | none, _ => upholds_pure trivial
  | some body, hbody => upholds_execNodes hg hb hj hexec body (hbody body rfl)

end

/-! ## Whole templates -/

/-- The state that a template is executed in is sound if what it is made from is. -/
theorem sound_start {set : Option Library} {context : Bindings} {options : RenderOptions}
    {out : Sink} (hlimit : options.recursionLimit = g.limit) (hlibrary : ∀ l ∈ set, g.library l)
    (hcontext : context.Obey g.rules) (hglobals : ∀ l ∈ set, l.globals.Obey g.rules)
    (hautoescape : g.rules.escaping options.autoescape) (hout : out.Obeys g.rules) :
    (State.start set context options out).Sound g 0 [] where
  depth := rfl
  chain := rfl
  limit := hlimit
  ancestors := nofun
  length := Nat.zero_le _
  library := hlibrary
  context := hcontext
  globals := by
    cases set with
    | none => exact nofun
    | some l => exact hglobals l rfl
  scopes := List.forall_mem_singleton.mpr obey_baseScope
  autoescape := hautoescape
  blocks := nofun
  out := hout

end Stencil
