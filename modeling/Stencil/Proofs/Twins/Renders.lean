import Stencil.Proofs.Alike.Exec
import Stencil.Proofs.Alike.Narrow
import Stencil.Proofs.Keeping
import Stencil.Proofs.Table
import Stencil.Proofs.Twins.Libraries

/-!
# Renders that differ in how a template is named

A template may be linked in one set and be named by a variable in the other one. If nothing else has
to do with the variable, then renders from the two sets cannot be told from each other where the
variable has the name of the template for its value in the data of the second one
(`lawful_standing`).
-/

namespace Stencil

open Library Render

variable {l l' : Library} {x v : String} {host : Host}

/-! ## Trees and values -/

/-- The likeness of the trees in two sets of which the second one names a template by the variable
`v`, where else trees have nothing to do with it. -/
def Library.standingTrees (l : Library) (x v : String) : Likeness :=
  ((l.naming x v).without v).numbered

/-- The same for trees, and of the values those that are equal and have nothing to do with the
variable. -/
def Library.standingValues (l : Library) (x v : String) : TreeLikeness where
  expr := (l.standingTrees x v).expr
  body := (l.standingTrees x v).body
  callee := (l.standingTrees x v).callee
  template := (l.standingTrees x v).template
  value c c' := c = c' ∧ v ∉ c.names

/-- What counts as alike in renders from the sets `l` and `l'`, where in the second one the variable
`v` stands for the name `x`. -/
def Library.standing (l : Library) (x v : String) (l' : Library) : Likeness :=
  let trees := (l.standingTrees x v).widest
  { trees with
    set := fun s s' => ∃ a a', s = some a ∧ s' = some a' ∧ l.Settled a ∧ l'.Settled a'
    scope := fun b b' => (∀ n, n ≠ v → Option.Rel trees.value (b.get? n) (b'.get? n)) ∧
      b'.get? v = none
    context := fun b b' => (∀ n, n ≠ v → Option.Rel trees.value (b.get? n) (b'.get? n)) ∧
      b'.get? v = some (.str x)
    globals := fun b b' => ∀ n, n ≠ v → Option.Rel trees.value (b.get? n) (b'.get? n) }

theorem standingTrees_le :
    (l.standingTrees x v).Le ((l.standingTrees x v).withTrees (l.standingValues x v)) :=
  ⟨⟨fun _ => id, fun _ _ => id, fun _ _ => id⟩, fun _ _ => id, fun _ _ => id, fun _ _ => id,
    fun _ _ => False.elim, fun _ _ _ => id, fun _ _ _ _ => id⟩

/-- Values that have nothing to do with the variable are made in the same way of such values. -/
theorem value_congruent {c : Value} (h : v ∉ c.names) :
    c.Congruent ((l.standingTrees x v).withTrees (l.standingValues x v)) c := by
  have hitems {vs : List Value} (h : v ∉ valueNames vs) :
      List.Forall₂ (l.standingValues x v).value vs vs :=
    forall₂_of_not_mem_flatMap (forall₂_refl (fun _ => rfl) vs) (valueNames_eq vs ▸ h)
      fun _ _ heq hc => ⟨heq, hc⟩
  have hfields {fields : List (String × Value)} (h : v ∉ fieldNames fields) :
      List.Forall₂ ((l.standingTrees x v).withTrees (l.standingValues x v)).field fields fields :=
    forall₂_of_not_mem_flatMap (forall₂_refl (fun _ => rfl) fields) (fieldNames_eq fields ▸ h)
      fun _ _ heq hc => ⟨congrArg Prod.fst heq, congrArg Prod.snd heq, hc⟩
  cases c with
  | nil => exact .nil
  | bool b => exact .bool b
  | int n => exact .int n
  | float y => exact .float y
  | str s => exact .str s
  | safe s => exact .safe s
  | seq items => exact .seq (hitems h)
  | map entries => exact .map (hfields h)
  | record r =>
    obtain ⟨kind, attrs, items, methods, visits, size, shown⟩ := r
    have h : (v ∉ fieldNames attrs ∧ v ∉ valueNames items) ∧ v ∉ visitNames visits := by
      rwa [← not_mem_append_iff, ← not_mem_append_iff]
    refine .record ⟨rfl, hfields h.1.1, hitems h.1.2, rfl, ?_, rfl, rfl⟩
    cases visits with
    | none => exact .none
    | some vs => exact .some (hitems h.2)
  | func f =>
    obtain ⟨name, params, optional, variadic, callback⟩ := f
    refine .func ⟨rfl, rfl, rfl, rfl, ?_⟩
    cases callback with
    | body m =>
      exact .body ⟨(naming_le l x v).callee _ _ rfl, (Macro.names_unnumbered m).symm ▸ h⟩
    | super => exact .super
    | host key data => exact .host key ⟨rfl, h⟩

theorem standing_unfolds :
    ((l.standingTrees x v).withTrees (l.standingValues x v)).Unfolds := by
  have h : (l.standingTrees x v).Unfolds :=
    numbered_unfolds (without_unfolds (Likeness.naming l x v).widest_unfolds v)
  exact ⟨fun he => (h.expr he).mono standingTrees_le.toLeExpr,
    fun hn => (h.body hn).imp fun _ _ => Node.Congruent.mono standingTrees_le,
    fun hm => (h.callee hm).mono standingTrees_le, fun ht => (h.template ht).mono standingTrees_le,
    fun ⟨heq, hc⟩ => heq ▸ value_congruent hc⟩

theorem le_standing : ((l.standingTrees x v).withTrees (l.standingValues x v)).Le
    (l.standingTrees x v).widest := Likeness.withTrees_le_widest standing_unfolds

/-- Templates are alike if they are so but for serial numbers. -/
theorem template_standing {t t' : Template}
    (ht : (l.naming x v).template t.unnumbered t'.unnumbered)
    (hv : v ∉ t.names) : (l.standing x v l').template t t' :=
  le_standing.template _ _ ⟨ht, (Template.names_unnumbered t).symm ▸ hv⟩

theorem value_standing {c : Value} (hv : v ∉ c.names) : (l.standing x v l').value c c :=
  le_standing.value _ _ ⟨rfl, hv⟩

/-- In a table of values that have nothing to do with the variable, every name has one value. -/
theorem rel_get?_standing (l l' : Library) (x : String) {b : Bindings}
    (hb : ∀ e ∈ b, v ∉ e.2.names) (n : String) :
    Option.Rel (l.standing x v l').value (b.get? n) (b.get? n) := by
  cases hget : b.get? n with
  | none => exact .none
  | some c =>
    have hc : (l.standing x v l').value c c := value_standing (hb _ (Table.mem_of_get? hget))
    exact .some hc

/-- What counts as alike in trees and values has nothing to do with states. -/
theorem widest_le_standing : (l.standingTrees x v).widest.Le (l.standing x v l') :=
  ⟨⟨fun _ => id, fun _ _ => id, fun _ _ => id⟩, fun _ _ => id, fun _ _ => id, fun _ _ => id,
    fun _ _ => id, fun _ _ _ => id, fun _ _ _ _ => id⟩

theorem standing_le_widest : (l.standing x v l').Le (l.standingTrees x v).widest :=
  ⟨⟨fun _ => id, fun _ _ => id, fun _ _ => id⟩, fun _ _ => id, fun _ _ => id, fun _ _ => id,
    fun _ _ => id, fun _ _ _ => id, fun _ _ _ _ => id⟩

/-! ## Errors -/

theorem isLoader_located (e : Error) (p : Position) : (e.located p).isLoader = e.isLoader := by
  cases e with
  | execution o _ _ => cases o <;> rfl
  | _ => rfl

theorem isLoader_inFilter (e : Error) (name : String) (p : Position) :
    (e.inFilter name p).isLoader = e.isLoader := by
  cases e with
  | execution o _ _ => cases o <;> rfl
  | _ => rfl

theorem isLoader_explain (fault : String → RunFault) (e : Error) :
    (explain fault e).isLoader = false := by
  cases e <;> rfl

theorem run_templateName (fault : String → RunFault) (name : String) (host : Host) (s : State) :
    templateName fault (.str name) host s = (.ok name, s) := rfl

/-! ## Laws -/

section Laws

variable {rank rank' : String → Nat} {enough enough' : Nat → List String → Prop}
  (hl : l.Orderly rank enough) (hl' : l'.Orderly rank' enough')
  (hanswers : ∀ name, EndAlike (Halt.Alike Error.SameKind)
    (Option.Rel (Template.Twins (l.naming x v))) (l.answer name) (l'.answer name))
  (hfresh : ∀ name t, l.answer name = .ok (some t) → v ∉ t.names) (hblock : v ≠ "block")

include hl hl' hanswers hfresh

omit hl hl' hanswers hfresh in
/-- The scope that every render starts with knows nothing of the variable. -/
theorem scope_base (hblock : v ≠ "block") :
    (l.standing x v l').scope State.baseScope State.baseScope := by
  have hnames : ∀ e ∈ State.baseScope, v ∉ e.2.names := by
    rw [State.baseScope, List.forall_mem_singleton]
    exact List.not_mem_nil
  have hne : (v == "block") = false := beq_eq_false_iff_ne.mpr hblock
  refine ⟨fun n _ => rel_get?_standing l l' x hnames n, ?_⟩
  simp only [State.baseScope, Table.get?, List.lookup_cons, hne, List.lookup_nil]

omit hl hl' hanswers hfresh in
theorem scope_insert {b b' : Bindings} {name : String} {c c' : Value}
    (hb : (l.standing x v l').scope b b') (hname : name ≠ v) (hc : (l.standing x v l').value c c') :
    (l.standing x v l').scope (b.insert name c) (b'.insert name c') := by
  refine ⟨fun n hn => ?_, (Table.get?_insert_of_ne b' hname.symm c').trans hb.2⟩
  by_cases heq : n = name
  · rw [heq, Table.get?_insert_self, Table.get?_insert_self]
    exact .some hc
  · rw [Table.get?_insert_of_ne b heq, Table.get?_insert_of_ne b' heq]
    exact hb.1 n hn

/-- In settled sets, names lead to templates that are alike. -/
theorem load_standing {a a' : Library} (ha : l.Settled a) (ha' : l'.Settled a')
    (referrer referrer' : Option String) (name : String) :
    EndAlike (Halt.Alike Error.SameKind)
        (fun t t' => (l.standing x v l').template t t' ∧ t.options = t'.options)
        (Library.load referrer name a).1 (Library.load referrer' name a').1 ∧
      l.Settled (Library.load referrer name a).2 ∧
      l'.Settled (Library.load referrer' name a').2 := by
  obtain ⟨hleft, hresult⟩ := load_settled hl referrer name ha
  obtain ⟨hleft', hresult'⟩ := load_settled hl' referrer' name ha'
  refine ⟨?_, hleft, hleft'⟩
  have hanswer := hanswers name
  have hnames := hfresh name
  generalize (Library.load referrer name a).1 = result at hresult ⊢
  generalize (Library.load referrer' name a').1 = result' at hresult' ⊢
  generalize l.answer name = answer at hanswer hnames hresult
  generalize l'.answer name = answer' at hanswer hresult'
  cases hanswer with
  | error hh =>
    cases result with
    | error => cases result' with
      | error =>
        cases hresult
        cases hresult'
        exact .error hh
      | ok => cases hresult'
    | ok => cases hresult
  | ok hfound =>
    cases hfound with
    | none =>
      cases result with
      | error => cases result' with
        | error =>
          cases hresult
          cases hresult'
          exact .error (.error rfl)
        | ok => cases hresult'
      | ok => cases hresult
    | some ht =>
      cases result with
      | error => cases hresult
      | ok t => cases result' with
        | error => cases hresult'
        | ok t' =>
          cases hresult
          cases hresult'
          have hv : v ∉ t.names := Template.names_unnumbered t ▸ hnames _ rfl
          have hoptions := ht.options
          rw [options_unnumbered, options_unnumbered] at hoptions
          exact .ok ⟨template_standing ht.template hv, hoptions⟩

include hblock in
theorem coherent_standing : (l.standing x v l').Coherent := by
  have hunfolds := (l.standingTrees x v).widest_unfolds
  have hfolds := (l.standingTrees x v).widest_folds
  have hle : (l.standingTrees x v).widest.Le (l.standing x v l') := widest_le_standing
  have hge : (l.standing x v l').Le (l.standingTrees x v).widest := standing_le_widest
  exact
    { run := fun _ => rfl
      located := fun _ he => (isLoader_located _ _).trans (he.trans (isLoader_located _ _).symm)
      inFilter := fun _ _ he =>
        (isLoader_inFilter _ _ _).trans (he.trans (isLoader_inFilter _ _ _).symm)
      isLoader := id
      explain := fun _ _ => (isLoader_explain _ _).trans (isLoader_explain _ _).symm
      expr := fun he => (hunfolds.expr he).mono hle.toLeExpr
      literal := fun literal => hfolds.expr (.literal literal)
      body := fun hn => (hunfolds.body hn).imp fun _ _ => Node.Congruent.mono hle
      callee := fun hm => (hunfolds.callee hm).mono hle
      template := fun ht => (hunfolds.template ht).mono hle
      value := ⟨fun hv => (hunfolds.value hv).mono hle, fun hv => hfolds.value (hv.mono hge)⟩
      lookup := fun hb hname => hb.1 _ hname.2
      context := fun hb hname => hb.1 _ hname.2
      globals := fun hb hname => hb _ hname.2
      empty := ⟨fun _ _ => .none, rfl⟩
      insert := fun hb hname hc => scope_insert hb hname.2 hc
      base := scope_base hblock
      isNone := by
        rintro _ _ ⟨a, a', rfl, rfl, -⟩
        rfl
      load := by
        rintro _ _ referrer name ⟨a, a', ⟨⟩, ⟨⟩, ha, ha'⟩
        obtain ⟨hresult, hleft, hleft'⟩ :=
          load_standing hl hl' hanswers hfresh ha ha' referrer referrer name
        exact ⟨hresult.imp fun _ _ ht => ht.1, _, _, rfl, rfl, hleft, hleft'⟩ }

omit hl hl' hanswers hfresh in
/-- In the second render the variable has the name of the template for its value. -/
theorem eval_variable {s s' : State} (hs : s.Alike (l.standing x v l') s') (j : Jumps)
    (p : Position) : (Expr.path v [] p).eval j host s' = (.ok (.str x), s') := by
  have hscopes : (s'.scopes.findSome? fun scope => scope.get? v) = none := by
    have hscopes := hs.scopes
    generalize s.scopes = scopes at hscopes
    generalize s'.scopes = scopes' at hscopes
    induction hscopes with
    | nil => rfl
    | cons hb _ ih => rw [List.findSome?_cons, hb.2, ih]
  have hlookup : s'.lookup v = .str x := by
    unfold State.lookup
    rw [hscopes]
    dsimp only
    rw [hs.context.2]
  unfold Expr.eval located
  rw [run_get_bind, hlookup, evalPath]
  rfl

omit hl hl' hanswers hfresh in
theorem run_requireSet {s s' : State} (hs : s.Alike (l.standing x v l') s') :
    requireSet host s' = (.ok (), s') := by
  obtain ⟨a, a', -, hset, -⟩ := hs.set
  unfold requireSet
  rw [run_get_bind, hset]
  rfl

omit hl hfresh in
/-- Where the first render has a linked template, the second one loads it. -/
theorem load_variable {s s' : State} (hs : s.Alike (l.standing x v l') s') {t : Template}
    (ht : l.answer x = .ok (some t.unnumbered)) (hv : v ∉ t.names) (referrer : Option String) :
    ∃ t' s'', Render.load referrer x host s' = (.ok t', s'') ∧ (l.standing x v l').template t t' ∧
      s.Alike (l.standing x v l') s'' ∧ s'.Rests s'' := by
  obtain ⟨a, a', hset, hset', ha, ha'⟩ := hs.set
  obtain ⟨hleft', hresult'⟩ := load_settled hl' referrer x ha'
  have hanswer := hanswers x
  rw [ht] at hanswer
  generalize l'.answer x = answer' at hanswer hresult'
  cases hanswer with
  | ok hfound =>
    cases hfound with
    | some ht' =>
      have hload : Render.load referrer x host s' = ((Library.load referrer x a').1,
          { s' with set := some (Library.load referrer x a').2 }) := by
        unfold Render.load
        rw [hset']
        rfl
      rcases hloaded : (Library.load referrer x a').1 with h | t' <;> rw [hloaded] at hresult'
      · cases hresult'
      · cases hresult'
        exact ⟨t', _, hload.trans (congrArg (·, _) hloaded), template_standing ht'.template hv,
          { hs with set := ⟨a, _, hset, rfl, ha, hleft'⟩ }, rfl, rfl⟩

include hblock in
/-- No step of a render from the first set can be told from the same step of one from the second
set.
-/
theorem lawful_standing (hhost : host.Uniform) : (l.standing x v l').Lawful host where
  toCoherent := coherent_standing hl hl' hanswers hfresh hblock
  toTolerates := hhost _ (coherent_standing hl hl' hanswers hfresh hblock)
  included := by
    rintro base t _ ⟨⟨ht, p, rfl⟩, hv⟩ j ifExists s s' hs
    have hnames : v ∉ t.names := Template.names_unnumbered t ▸ hv
    obtain ⟨t', s'', hload, ht', hleft, hrests⟩ : ∃ t' s'',
        Render.load (some base) x host s' = (.ok t', s'') ∧ (l.standing x v l').template t t' ∧
          s.Alike (l.standing x v l') s'' ∧ s'.Rests s'' :=
      load_variable hl' hanswers hs ht hnames _
    have hfound : (Target.named (.path v [] p)).find? j base ifExists host s' =
        (.ok (some t'), s'') := by
      unfold Target.find?
      dsimp only
      rw [run_bind_of_ok (eval_variable hs j p), run_bind_of_ok (run_templateName ..),
        run_bind_of_ok (run_requireSet hs), run_bind_of_ok (attempt_of_ok hload)]
      rfl
    rw [hfound]
    exact ⟨.ok (.some ht'), hleft, .refl s, hrests⟩
  extended := by
    rintro t u _ p hparent ⟨⟨hu, q, rfl⟩, hv⟩ j s s' hs
    have hnames : v ∉ u.names := Template.names_unnumbered u ▸ hv
    obtain ⟨u', s'', hload, hu', hleft, hrests⟩ : ∃ u' s'',
        Render.load (some t.name) x host s' = (.ok u', s'') ∧ (l.standing x v l').template u u' ∧
          s.Alike (l.standing x v l') s'' ∧ s'.Rests s'' :=
      load_variable hl' hanswers hs hu hnames _
    have hfound : t.parent? j host s' = (.ok (some u'), s'') := by
      have hname := (run_bind_of_ok (eval_variable hs j q)).trans
        (run_templateName .extendsName x host s')
      unfold Template.parent?
      rw [hparent]
      dsimp only
      rw [run_bind_of_ok (located_of_ok p hname), run_bind_of_ok (run_requireSet hs)]
      exact located_of_ok p (run_bind_of_ok (attempt_of_ok hload))
    rw [hfound]
    exact ⟨.ok (.some hu'), hleft, .refl s, hrests⟩

end Laws

end Stencil
