import Stencil.Proofs.Alike.Eval

/-!
# Executing templates that are alike

Nodes that are alike do the same in all states that are alike, whatever they write to: as long as
the sinks of the two renders go together, both renders end alike (`agrees_execNodes`). So it is with
the jumps of two renders, however few may be nested (`agree_upTo`), and with whole templates
(`agrees_render`).
-/

namespace Stencil

open Render

variable {L : Likeness} {host : Host} {j j' : Jumps} {v v' : Value}

/-! ## Templates by name -/

section Templates

variable (hL : L.Lawful host) (hj : j.Agree L host j')
include hL hj

theorem echoes_evalBindings {bindings bindings' : List (String × Expr)}
    (h : List.Forall₂ (L.entry L.expr) bindings bindings') :
    Echoes L host (evalBindings j bindings) (evalBindings j' bindings')
      (List.Forall₂ (L.entry L.value)) := by
  induction h with
  | nil => exact echoes_pure .nil
  | @cons b b' _ _ hb _ ih =>
    obtain ⟨name, e⟩ := b
    obtain ⟨name', e'⟩ := b'
    obtain ⟨rfl, hname, he⟩ := hb
    exact echoes_bind (echoes_eval hL hj e e' he) fun _ _ hv => echoes_bind ih fun _ _ h =>
      echoes_pure (.cons ⟨rfl, hname, hv⟩ h)

theorem echoes_firstTrue {es es' : List Expr} (h : List.Forall₂ L.expr es es') :
    Echoes L host (firstTrue j es) (firstTrue j' es') (Option.Rel L.value) := by
  induction h with
  | nil => exact echoes_pure .none
  | @cons e e' _ _ he _ ih =>
    refine echoes_bind (echoes_eval hL hj e e' he) fun v v' hv => ?_
    rw [isTruthy_eq hL.toValued hv]
    split
    · exact echoes_pure (.some hv)
    · exact ih

theorem echoes_ratioNumber (what : String) {e e' : Expr} (he : L.expr e e') :
    Echoes L host (ratioNumber j what e) (ratioNumber j' what e') Eq := by
  refine echoes_bind (echoes_eval hL hj e e' he) fun v v' hv => ?_
  rw [toFloat?_eq hL.toValued hv, kind_eq hL.toValued hv]
  split
  · exact echoes_pure rfl
  · exact echoes_fail hL _

omit hj in
theorem echoes_templateName (fault : String → RunFault) (hv : L.value v v') :
    Echoes L host (templateName fault v) (templateName fault v') Eq := by
  unfold templateName
  rw [string?_eq hL.toValued hv, kind_eq hL.toValued hv]
  split
  · exact echoes_pure rfl
  · exact echoes_fail hL _

theorem echoes_find {target target' : Target} {base : String}
    (h : Target.Congruent L base target target') (ifExists : Bool) :
    Echoes L host (target.find? j base ifExists) (target'.find? j' base ifExists)
      (Option.Rel L.template) := by
  cases h with
  | linked ht => exact echoes_pure (.some ht)
  | loose ht => exact hL.included ht j' ifExists
  | named he =>
    refine echoes_bind (echoes_eval hL hj _ _ he) fun v v' hv => ?_
    refine echoes_bind (echoes_templateName hL _ hv) ?_
    rintro name _ rfl
    refine echoes_bind (echoes_requireSet hL) fun _ _ _ => ?_
    refine echoes_bind (echoes_attempt (echoes_load hL _ name)) fun result result' hresult => ?_
    cases hresult with
    | ok ht => exact echoes_pure (.some ht)
    | error he =>
      dsimp only
      rw [hL.isLoader he]
      split
      · exact echoes_pure .none
      · exact echoes_throw (.error (hL.explain _ he))

/-! ## Inheritance -/

theorem echoes_parent {t t' : Template} (ht : L.template t t') :
    Echoes L host (t.parent? j) (t'.parent? j') (Option.Rel L.template) := by
  have ht := hL.template ht
  have hparent := ht.parent
  rcases hp : t.parent with _ | parent <;> rcases hp' : t'.parent with _ | parent' <;>
    rw [hp, hp'] at hparent <;> cases hparent
  · unfold Template.parent?
    rw [hp, hp']
    exact echoes_pure .none
  · rename_i hparent
    cases hparent with
    | linked hu =>
      unfold Template.parent?
      rw [hp, hp']
      exact echoes_pure (.some hu)
    | @loose u e p hu =>
      have hlinked : t.parent? j = pure (some u) := by
        unfold Template.parent?
        rw [hp]
      rw [hlinked]
      exact hL.extended hp' (ht.name ▸ hu) j'
    | named he hpos =>
      unfold Template.parent?
      rw [hp, hp', ht.name]
      refine echoes_bind (A := Eq) (echoes_located hL hpos ?_) ?_
      · exact echoes_bind (echoes_eval hL hj _ _ he) fun v v' hv => echoes_templateName hL _ hv
      rintro name _ rfl
      refine echoes_bind (echoes_requireSet hL) fun _ _ _ => echoes_located hL hpos ?_
      refine echoes_bind (echoes_attempt (echoes_load hL _ name)) fun result result' hresult => ?_
      cases hresult with
      | ok ht => exact echoes_pure (.some ht)
      | error he => exact echoes_throw (.error (hL.explain _ he))

omit hj in
theorem any_name_eq {chain chain' : List Template} (h : List.Forall₂ L.template chain chain')
    (name : String) :
    (chain.any fun t => t.name == name) = chain'.any fun t => t.name == name := by
  induction h with
  | nil => rfl
  | cons ht _ ih => rw [List.any_cons, List.any_cons, ih, (hL.template ht).name]

theorem echoes_ancestry {youngest youngest' : Template} (hyoungest : L.template youngest youngest')
    (limit room : Nat) {oldest oldest' : Template} (holdest : L.template oldest oldest')
    {chain chain' : List Template} (hchain : List.Forall₂ L.template chain chain') :
    Echoes L host (ancestry j youngest limit room oldest chain)
      (ancestry j' youngest' limit room oldest' chain') (List.Forall₂ L.template) := by
  induction room generalizing oldest oldest' chain chain' with
  | zero =>
    unfold ancestry
    refine echoes_bind (echoes_parent hL hj holdest) fun found found' hfound => ?_
    cases hfound with
    | none => exact echoes_pure hchain
    | some hparent =>
      dsimp only
      rw [(hL.template hparent).name, (hL.template holdest).name, (hL.template hyoungest).name,
        any_name_eq hL hchain]
      split <;> exact echoes_fail hL _
  | succ room ih =>
    unfold ancestry
    refine echoes_bind (echoes_parent hL hj holdest) fun found found' hfound => ?_
    cases hfound with
    | none => exact echoes_pure hchain
    | some hparent =>
      dsimp only
      rw [(hL.template hparent).name, (hL.template holdest).name, any_name_eq hL hchain]
      split
      · exact echoes_fail hL _
      · exact ih hparent (.cons hparent hchain)

theorem agrees_render {t t' : Template} (ht : L.template t t') :
    Agrees L host (t.render j) (t'.render j') := by
  refine agrees_bind (A := List.Forall₂ L.template) ?_ fun chain chain' hchain => ?_
  · refine echoes_get_bind fun s s' hs => ?_
    rw [hs.recursionLimit]
    exact echoes_ancestry hL hj ht _ _ ht (.cons ht .nil)
  · cases hchain with
    | nil => exact agrees_of_echoes (echoes_pure (A := Eq) rfl)
    | cons ht hrest =>
      exact agrees_within (brackets_chain (.cons ht hrest)) (hj.run (hL.template ht).nodes)

omit hj in
theorem forall₂_bodiesOf (name : String) {chain chain' : List Template}
    (h : List.Forall₂ L.template chain chain') :
    List.Forall₂ L.body (bodiesOf name chain) (bodiesOf name chain') := by
  refine List.rel_reverse ?_
  induction h with
  | nil => exact .nil
  | @cons t t' _ _ ht _ ih =>
    have hblock := (hL.template ht).block name
    rw [List.filterMap_cons, List.filterMap_cons]
    revert hblock
    generalize t.block? name = found
    generalize t'.block? name = found'
    rintro (⟨hbody⟩ | _)
    · exact .cons hbody ih
    · exact ih

theorem agrees_renderBlock (name : String) {own own' : Render Unit}
    (hown : Agrees L host own own') :
    Agrees L host (renderBlock j name own) (renderBlock j' name own') := by
  refine agrees_get_bind fun s s' hs => ?_
  have hbodies := forall₂_bodiesOf hL name hs.chain
  revert hbodies
  generalize bodiesOf name s.chain = bodies
  generalize bodiesOf name s'.chain = bodies'
  rintro (_ | ⟨hbody, hrest⟩)
  · exact agrees_within (brackets_block .nil) hown
  · exact agrees_within (brackets_block hrest) (hj.run hbody)

end Templates

/-! ## Nodes -/

section Nodes

variable (hL : L.Lawful host)
include hL

theorem agrees_writeValue (hv : L.value v v') :
    Agrees L host (writeValue v) (writeValue v') := by
  refine agrees_get_bind fun s s' hs => ?_
  rw [hs.autoescape, isSafe_eq hL.toValued hv, text_eq hL.toValued v v' hv]
  exact agrees_write _

omit hL in
theorem agrees_writeAnswer {answer answer' : Except Error String}
    (h : EndAlike L.error Eq answer answer') :
    Agrees L host (writeAnswer answer) (writeAnswer answer') := by
  refine agrees_bind (echoes_ofExcept h) ?_
  rintro text _ rfl
  exact agrees_write text

omit hL in
theorem agrees_pure : Agrees L host (pure ()) (pure ()) :=
  agrees_of_echoes (echoes_pure (A := Eq) rfl)

theorem echoes_visitsOf {v v' : Value} (hv : L.value v v') (two reversed sorted : Bool) :
    Echoes L host (visitsOf v two reversed sorted) (visitsOf v' two reversed sorted)
      (List.Forall₂ fun a b => L.value a.1 b.1 ∧ L.value a.2 b.2) := by
  refine echoes_read_bind ?_
  have hvisits := rel_visits hL.toValued host.sorter hv two reversed sorted
  generalize Loop.visits host.sorter v two reversed sorted = visits at hvisits ⊢
  generalize Loop.visits host.sorter v' two reversed sorted = visits' at hvisits ⊢
  cases hvisits with
  | none => exact echoes_throw .exhausted
  | some hvisits => exact echoes_pure hvisits

theorem agrees_forEach {first : String} {second : Option String} (hfirst : L.name first)
    (hsecond : ∀ name ∈ second, L.name name) (hforloop : L.name "forloop") {parent parent' : Value}
    (hparent : L.value parent parent') (total : Nat) {body body' : Render Unit}
    (hbody : Agrees L host body body') (i : Nat) {visits visits' : List (Value × Value)}
    (h : List.Forall₂ (fun a b => L.value a.1 b.1 ∧ L.value a.2 b.2) visits visits') :
    Agrees L host (forEach first second parent total body i visits)
      (forEach first second parent' total body' i visits') := by
  induction h generalizing i with
  | nil => exact agrees_pure
  | cons hvisit _ ih =>
    refine agrees_seq (agrees_inScope hL ?_ hbody) (ih (i + 1))
    refine .cons ⟨rfl, hforloop, alike_counters hL.toValued i total hparent⟩ ?_
    cases second with
    | none => exact .cons ⟨rfl, hfirst, hvisit.2⟩ .nil
    | some name =>
      exact .cons ⟨rfl, hfirst, hvisit.1⟩ (.cons ⟨rfl, hsecond name rfl, hvisit.2⟩ .nil)

theorem echoes_import {macros macros' : List (String × Macro)}
    (h : List.Forall₂ (L.entry L.callee) macros macros') :
    Echoes L host
      (modify fun s => macros.foldl (fun s e => s.bind e.1 (.func (.ofMacro e.2))) s : Render Unit)
      (modify fun s => macros'.foldl (fun s e => s.bind e.1 (.func (.ofMacro e.2))) s)
      fun _ _ => True := by
  have hrests (macros : List (String × Macro)) (s : State) :
      s.Rests (macros.foldl (fun s e => s.bind e.1 (.func (.ofMacro e.2))) s) := by
    induction macros generalizing s with
    | nil => exact .refl s
    | cons e _ ih => exact (rests_bind s e.1 _).trans (ih _)
  refine echoes_modify (fun s s' hs => ?_) (hrests macros) (hrests macros')
  induction h generalizing s s' with
  | nil => exact hs
  | @cons e e' _ _ he _ ih =>
    obtain ⟨hname, hknown, hm⟩ := he
    refine ih (s.bind e.1 (.func (.ofMacro e.2))) (s'.bind e'.1 (.func (.ofMacro e'.2))) ?_
    rw [← hname]
    exact alike_bind hL hs hknown (alike_ofMacro hL.toCoherent hm)

end Nodes

mutual

theorem agrees_execNodes (hL : L.Lawful host) (hj : j.Agree L host j') :
    (nodes nodes' : List Node) → List.Forall₂ (Node.Congruent L) nodes nodes' →
    Agrees L host (execNodes j nodes) (execNodes j' nodes')
  | [], _, .nil => agrees_pure
  | n :: ns, _, .cons hn hns =>
    agrees_seq (agrees_exec hL hj n _ hn) (agrees_execNodes hL hj ns _ hns)

theorem agrees_exec (hL : L.Lawful host) (hj : j.Agree L host j') :
    (n n' : Node) → n.Congruent L n' → Agrees L host (n.exec j) (n'.exec j')
  | .text s, _, .text _ => agrees_write s
  | .output _ e, _, .output hp he =>
    agrees_located hL hp (agrees_bind (echoes_eval hL hj e _ he) fun _ _ hv =>
      agrees_writeValue hL hv)
  | .tag _ _ statement, _, .tag _ hp hs =>
    agrees_located hL hp (agrees_statement hL hj statement _ hs)

theorem agrees_statement (hL : L.Lawful host) (hj : j.Agree L host j') :
    (st st' : Statement) → st.Congruent L st' → Agrees L host (st.exec j) (st'.exec j')
  | .branch branches otherwise, _, .branch hbranches hotherwise =>
    agrees_execBranches hL hj
      (agrees_execOptional hL hj otherwise _ hotherwise) branches _ hbranches
  | .compare lhs rhs negated body otherwise, _, .compare _ hlhs hrhs hbody hotherwise => by
    refine agrees_bind (echoes_eval hL hj lhs _ hlhs) fun a a' ha => ?_
    refine agrees_bind (echoes_eval hL hj rhs _ hrhs) fun b b' hb => ?_
    rw [equals_eq hL.toValued ha hb]
    split
    · exact agrees_execNodes hL hj body _ (hL.body hbody)
    · exact agrees_execOptional hL hj otherwise _ hotherwise
  | .loop first second source reversed sorted body empty, _,
      .loop _ _ hfirst hsecond hforloop hsource hbody hempty => by
    refine agrees_bind (echoes_eval hL hj source _ hsource) fun v v' hv => ?_
    have hbody := agrees_execNodes hL hj body _ (hL.body hbody)
    have hempty := agrees_execOptional hL hj empty _ hempty
    refine agrees_bind (echoes_visitsOf hL hv _ _ _) fun visits visits' hvisits => ?_
    cases hvisits with
    | nil => exact hempty
    | cons hvisit hrest =>
      refine agrees_get_bind fun s s' hs => ?_
      rw [hrest.length_eq]
      exact agrees_forEach hL hfirst hsecond hforloop (alike_lookup hL hs hforloop) _ hbody 0
        (.cons hvisit hrest)
  | .cycle values target silent, .cycle values' _ _, .cycle _ hforloop hvalues hname => by
    have hchosen (i : Nat) : L.expr (values.getD i default) (values'.getD i default) := by
      rw [List.getD_eq_getElem?_getD, List.getD_eq_getElem?_getD]
      exact rel_getD (rel_getElem? hvalues i) (hL.literal default)
    refine agrees_get_bind fun s s' hs => ?_
    rw [cycleIndex_eq hL.toValued (alike_lookup hL hs hforloop), hvalues.length_eq]
    refine agrees_bind (echoes_eval hL hj _ _ (hchosen _)) fun v v' hv => ?_
    have hwrite : Agrees L host (if !silent then Render.writeValue v else pure ())
        (if !silent then Render.writeValue v' else pure ()) := by
      split
      · exact agrees_writeValue hL hv
      · exact agrees_pure
    cases target with
    | none => exact hwrite
    | some name => exact agrees_bind (echoes_assign hL (hname name rfl) hv) fun _ _ _ => hwrite
  | .firstOf values, _, .firstOf hvalues => by
    refine agrees_bind (echoes_firstTrue hL hj hvalues) fun found found' hfound => ?_
    cases hfound with
    | some hv => exact agrees_writeValue hL hv
    | none => exact agrees_pure
  | .block name body, _, .block _ hbody =>
    agrees_renderBlock hL hj name (agrees_execNodes hL hj body _ (hL.body hbody))
  | .includes target base bindings only ifExists, _, .includes _ _ htarget hbindings => by
    refine agrees_bind (echoes_find hL hj htarget ifExists) fun found found' hfound => ?_
    cases hfound with
    | none => exact agrees_pure
    | some ht =>
      refine agrees_bind (echoes_evalBindings hL hj hbindings) fun values values' hvalues => ?_
      refine agrees_deeper hL _ ?_
      split
      · exact agrees_isolated hL hvalues (agrees_render hL hj ht)
      · exact agrees_inScope hL hvalues (agrees_render hL hj ht)
  | .imports macros, _, .imports hmacros => agrees_of_echoes (echoes_import hL hmacros)
  | .bind bindings body, _, .bind hbindings hbody =>
    agrees_bind (echoes_evalBindings hL hj hbindings) fun _ _ hvalues =>
      agrees_inScope hL hvalues (agrees_execNodes hL hj body _ (hL.body hbody))
  | .assign name e, _, .assign hname he =>
    agrees_bind (echoes_eval hL hj e _ he) fun _ _ hv =>
      agrees_of_echoes (echoes_assign hL hname hv)
  | .define m, _, .define hname hm => by
    have hnames := (hL.callee hm).name
    unfold Statement.exec
    rw [← hnames]
    exact agrees_of_echoes (echoes_assign hL hname (alike_ofMacro hL.toCoherent hm))
  | .escaping enabled body, _, .escaping _ hbody =>
    agrees_within (brackets_autoescape enabled) (agrees_execNodes hL hj body _ (hL.body hbody))
  | .filtering filters body, _, .filtering hfilters hbody => by
    refine agrees_bind (echoes_capture (agrees_execNodes hL hj body _ (hL.body hbody))) ?_
    rintro text _ rfl
    exact agrees_bind (echoes_evalFilters hL hj filters _ hfilters (alike_safe hL.toValued text))
      fun _ _ hv => agrees_writeValue hL hv
  | .spaceless body, _, .spaceless hbody => by
    refine agrees_bind (echoes_capture (agrees_execNodes hL hj body _ (hL.body hbody))) ?_
    rintro text _ rfl
    exact agrees_write _
  | .nothing, _, .nothing => agrees_pure
  | .now format fake, _, .now _ _ => by
    refine agrees_read_bind ?_
    dsimp only
    split
    · exact agrees_writeValue hL (alike_str hL.toValued _)
    · exact agrees_of_echoes (A := Eq) (echoes_fail hL _)
  | .write text, _, .write _ => agrees_write text
  | .ratio value most width target, _, .ratio hvalue hmost hwidth hname => by
    refine agrees_bind (echoes_ratioNumber hL hj _ hvalue) ?_
    rintro value _ rfl
    refine agrees_bind (echoes_ratioNumber hL hj _ hmost) ?_
    rintro most _ rfl
    refine agrees_bind (echoes_ratioNumber hL hj _ hwidth) ?_
    rintro width _ rfl
    cases target with
    | none => exact agrees_write _
    | some name =>
      exact agrees_of_echoes (echoes_assign hL (hname name rfl) (alike_int hL.toValued _))
  | .custom steps, _, .custom hsteps => agrees_execSteps hL hj steps _ hsteps

theorem agrees_execSteps (hL : L.Lawful host) (hj : j.Agree L host j') :
    (steps steps' : List Step) → List.Forall₂ (Step.Congruent L) steps steps' →
    Agrees L host (execSteps j steps) (execSteps j' steps')
  | [], _, .nil => agrees_pure
  | step :: steps, _, .cons hstep hsteps =>
    agrees_seq (agrees_step hL hj step _ hstep) (agrees_execSteps hL hj steps _ hsteps)

theorem agrees_step (hL : L.Lawful host) (hj : j.Agree L host j') :
    (step step' : Step) → step.Congruent L step' → Agrees L host (step.exec j) (step'.exec j')
  | .write text, _, .write _ => agrees_write text
  | .run body, _, .run hbody => agrees_execNodes hL hj body _ (hL.body hbody)
  | .captured key body, _, .captured _ hbody =>
    agrees_bind
      (echoes_attempt (echoes_capture (agrees_execNodes hL hj body _ (hL.body hbody))))
      fun _ _ hresult => agrees_read_bind (agrees_writeAnswer (hL.captured key hresult))
  | .shown key e, _, .shown _ he =>
    agrees_bind (echoes_eval hL hj e _ he) fun _ _ hv =>
      agrees_read_bind (agrees_writeAnswer (hL.shown key hv))

theorem agrees_execBranches (hL : L.Lawful host) (hj : j.Agree L host j')
    {otherwise otherwise' : Render Unit} (ho : Agrees L host otherwise otherwise') :
    (branches branches' : List (Expr × List Node)) →
    List.Forall₂ (fun b b' => L.expr b.1 b'.1 ∧ L.body b.2 b'.2) branches branches' →
    Agrees L host (execBranches j otherwise branches) (execBranches j' otherwise' branches')
  | [], _, .nil => ho
  | ⟨condition, body⟩ :: branches, _, .cons hbranch hbranches => by
    refine agrees_bind (echoes_eval hL hj condition _ hbranch.1) fun v v' hv => ?_
    rw [isTruthy_eq hL.toValued hv]
    split
    · exact agrees_execNodes hL hj body _ (hL.body hbranch.2)
    · exact agrees_execBranches hL hj ho branches _ hbranches

theorem agrees_execOptional (hL : L.Lawful host) (hj : j.Agree L host j') :
    (body body' : Option (List Node)) → Option.Rel L.body body body' →
    Agrees L host (execOptional j body) (execOptional j' body')
  | none, _, .none => agrees_pure
  | some body, _, .some hbody => agrees_execNodes hL hj body _ (hL.body hbody)

end

/-- The jumps of two renders agree, however few may be nested. -/
theorem agree_upTo (hL : L.Lawful host) (fuel : Nat) :
    (Jumps.upTo fuel).Agree L host (Jumps.upTo fuel) := by
  induction fuel with
  | zero =>
    have hthrow {α α' : Type} {A : α → α' → Prop} :
        Echoes L host (throw .spent : Render α) (throw .spent : Render α') A :=
      echoes_throw .exhausted
    exact ⟨fun _ => agrees_of_echoes (A := Eq) hthrow, fun _ => agrees_of_echoes (A := Eq) hthrow,
      fun _ => hthrow⟩
  | succ fuel ih =>
    exact ⟨fun h => agrees_execNodes hL ih _ _ (hL.body h),
      fun h => agrees_execNodes hL ih _ _ (hL.body h), fun h => echoes_eval hL ih _ _ h⟩

end Stencil
