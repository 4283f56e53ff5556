import Stencil.Proofs.Keeping
import Stencil.Proofs.Within.Carry

/-!
# Carrying nodes

If the jumps of one render are carried by those of another, then so is the execution of nodes within
the vocabulary. So a render is carried by another one that may nest at least as many jumps
(`carry_upTo`).
-/

namespace Stencil

open Render

variable {ι : Type} {R : ι → State → State → Prop} {host : Host} {V : Vocabulary} {j j' : Jumps}

/-! ## Templates by name -/

section Templates

variable (h : Carried host V R) (hj : j.Carry host V R j')
include h hj

theorem carries_evalBindings {bindings : List (String × Expr)}
    (hbindings : ∀ b ∈ bindings, b.2.Within V) :
    Carries host R (evalBindings j bindings) (evalBindings j' bindings)
      fun values => ∀ b ∈ values, b.2.Within V := by
  induction bindings with
  | nil => exact carries_pure nofun
  | cons b rest ih =>
    obtain ⟨he, hrest⟩ := List.forall_mem_cons.mp hbindings
    exact carries_bind (carries_eval h hj b.2 he) fun _ hv => carries_bind (ih hrest) fun _ hb =>
      carries_pure (List.forall_mem_cons.mpr ⟨hv, hb⟩)

theorem carries_firstTrue {es : List Expr} (hes : ∀ e ∈ es, e.Within V) :
    Carries host R (firstTrue j es) (firstTrue j' es) fun _ => True := by
  induction es with
  | nil => exact carries_pure trivial
  | cons e es ih =>
    obtain ⟨he, hes⟩ := List.forall_mem_cons.mp hes
    refine carries_bind (carries_eval h hj e he) fun v _ => ?_
    split
    · exact carries_pure trivial
    · exact ih hes

theorem carries_ratioNumber (what : String) {e : Expr} (he : e.Within V) :
    Carries host R (ratioNumber j what e) (ratioNumber j' what e) fun _ => True := by
  refine carries_bind (carries_eval h hj e he) fun v _ => ?_
  split
  · exact carries_pure trivial
  · exact carries_fail _ _

omit h hj in
theorem carries_templateName (fault : String → RunFault) (v : Value) :
    Carries host R (templateName fault v) (templateName fault v) fun _ => True := by
  unfold templateName
  split
  · exact carries_pure trivial
  · exact carries_fail _ _

theorem carries_find {target : Target} (htarget : target.Within V) (base : String)
    (ifExists : Bool) :
    Carries host R (target.find? j base ifExists) (target.find? j' base ifExists)
      fun found => ∀ t ∈ found, t.Within V := by
  cases htarget with
  | linked ht => exact carries_pure fun | _, rfl => h.links ht
  | named hlookup he =>
    refine carries_bind (carries_eval h hj _ he) fun v _ => ?_
    refine carries_bind (carries_templateName _ v) fun name _ => ?_
    refine carries_bind (carries_requireSet h hlookup) fun _ _ => ?_
    refine carries_bind (carries_attempt_load h hlookup _ name) fun result hresult => ?_
    split
    · exact carries_pure fun | _, rfl => hresult _ rfl
    · split
      · exact carries_pure nofun
      · exact carries_throw _ _

/-! ## Inheritance -/

theorem carries_parent {t : Template} (ht : t.Within V) :
    Carries host R (t.parent? j) (t.parent? j') fun found => ∀ u ∈ found, u.Within V := by
  have hparent := ht.parent
  unfold Template.parent?
  generalize t.parent = parent at hparent ⊢
  rcases parent with _ | parent
  · exact carries_pure nofun
  cases hparent parent rfl with
  | linked hu => exact carries_pure fun | _, rfl => h.links hu
  | @named e p hlookup he _ =>
    refine carries_bind (A := fun _ => True) (carries_located p ?_) fun name _ => ?_
    · exact carries_bind (carries_eval h hj e he) fun v _ => carries_templateName _ v
    refine carries_bind (carries_requireSet h hlookup) fun _ _ => carries_located p ?_
    refine carries_bind (carries_attempt_load h hlookup _ name) fun result hresult => ?_
    split
    · exact carries_pure fun | _, rfl => hresult _ rfl
    · exact carries_throw _ _

theorem carries_ancestry (youngest : Template) (limit room : Nat) {oldest : Template}
    (holdest : oldest.Within V) {chain : List Template} (hchain : ∀ t ∈ chain, t.Within V) :
    Carries host R (ancestry j youngest limit room oldest chain)
      (ancestry j' youngest limit room oldest chain) fun chain => ∀ t ∈ chain, t.Within V := by
  induction room generalizing oldest chain with
  | zero =>
    unfold ancestry
    refine carries_bind (carries_parent h hj holdest) fun found _ => ?_
    split
    · exact carries_pure hchain
    · split <;> exact carries_fail _ _
  | succ room ih =>
    unfold ancestry
    refine carries_bind (carries_parent h hj holdest) fun found hfound => ?_
    split
    · exact carries_pure hchain
    · rename_i parent
      split
      · exact carries_fail _ _
      · have hparent := hfound parent rfl
        exact ih hparent (List.forall_mem_cons.mpr ⟨hparent, hchain⟩)

theorem carries_render {t : Template} (ht : t.Within V) :
    Carries host R (t.render j) (t.render j') fun _ => True := by
  refine carries_bind (A := fun chain => ∀ t ∈ chain, t.Within V) ?_ fun chain hchain => ?_
  · refine carries_get_bind fun i s s' hs => ?_
    rw [h.recursionLimit hs]
    exact carries_ancestry h hj t _ _ ht (List.forall_mem_singleton.mpr ht)
  · split
    · exact carries_pure trivial
    · rename_i oldest younger
      exact carries_within (h.chain hchain)
        (hj.run (hchain oldest List.mem_cons_self).nodes)

theorem carries_renderBlock {name : String} (hname : V.block name) {own own' : Render Unit}
    (hown : Carries host R own own' fun _ => True) :
    Carries host R (renderBlock j name own) (renderBlock j' name own') fun _ => True := by
  refine carries_get_bind fun i s s' hs => ?_
  obtain ⟨heq, hbodies⟩ := h.bodies hs hname
  rw [← heq]
  split
  · exact carries_within (h.block nofun) hown
  · rename_i body overridden hfound
    obtain ⟨hbody, hrest⟩ := List.forall_mem_cons.mp (hfound ▸ hbodies)
    exact carries_within (h.block hrest) (hj.run hbody)

end Templates

/-! ## Nodes -/

section Nodes

variable (h : Carried host V R)
include h

theorem carries_writeAnswer {x x' : Except Error String} (hx : ∀ text, x = .ok text → x' = x) :
    Carries host R (writeAnswer x) (writeAnswer x') fun _ => True := by
  cases x with
  | error e => exact carries_throw (.error e) _
  | ok text =>
    rw [hx text rfl]
    exact carries_write h text

omit h in
theorem carries_visitsOf {v : Value} (hv : v.Within V) (two reversed sorted : Bool) :
    Carries host R (visitsOf v two reversed sorted) (visitsOf v two reversed sorted)
      fun visits => ∀ visit ∈ visits, visit.1.Within V ∧ visit.2.Within V := by
  refine carries_read_bind ?_
  split
  · exact carries_pure (within_visits hv ‹_›)
  · exact carries_throw _ _

theorem carries_forEach (first : String) (second : Option String) {parent : Value}
    (hparent : parent.Within V) (total : Nat) {body body' : Render Unit}
    (hbody : Carries host R body body' fun _ => True) (i : Nat) {visits : List (Value × Value)}
    (hvisits : ∀ visit ∈ visits, visit.1.Within V ∧ visit.2.Within V) :
    Carries host R (forEach first second parent total body i visits)
      (forEach first second parent total body' i visits) fun _ => True := by
  induction visits generalizing i with
  | nil => exact carries_pure trivial
  | cons visit visits ih =>
    obtain ⟨hvisit, hvisits⟩ := List.forall_mem_cons.mp hvisits
    refine carries_bind (carries_inScope h ?_ hbody) fun _ _ => ih (i + 1) hvisits
    refine List.forall_mem_cons.mpr ⟨within_counters i total hparent, ?_⟩
    cases second with
    | none => exact List.forall_mem_singleton.mpr hvisit.2
    | some second =>
      exact List.forall_mem_cons.mpr ⟨hvisit.1, List.forall_mem_singleton.mpr hvisit.2⟩

theorem carries_import {macros : List (String × Macro)} (hmacros : ∀ m ∈ macros, m.2.Within V) :
    Carries host R
      (modify fun s => macros.foldl (fun s e => s.bind e.1 (.func (.ofMacro e.2))) s)
      (modify fun s => macros.foldl (fun s e => s.bind e.1 (.func (.ofMacro e.2))) s)
      fun _ => True := by
  refine carries_modify fun i s s' hs => ?_
  induction macros generalizing s s' with
  | nil => exact hs
  | cons m macros ih =>
    obtain ⟨hm, hmacros⟩ := List.forall_mem_cons.mp hmacros
    exact ih hmacros _ _ (h.bind m.1 hs (within_ofMacro hm))

/-- A tag of the host gets to an end only if the body that it captures does. -/
theorem carries_captured (key : String) {body body' : Render Unit}
    (hbody : Carries host R body body' fun _ => True) :
    Carries host R
      (do
        let result ← attempt (capture body)
        writeAnswer ((← read).captured key result))
      (do
        let result ← attempt (capture body')
        writeAnswer ((← read).captured key result)) fun _ => True := by
  intro i s s' hs a u hu
  obtain ⟨result, t, hresult, hu⟩ := exists_of_run_bind hu
  unfold attempt at hresult
  rcases hx : capture body host s with ⟨(e | _) | text, v⟩ <;> rw [hx] at hresult <;> cases hresult
  · obtain ⟨e', he'⟩ := h.captured key e
    change writeAnswer (host.captured key (.error e)) host t = _ at hu
    rw [he'] at hu
    cases hu
  · obtain ⟨-, t', ht', ht⟩ := carries_capture h hbody i s s' hs text _ hx
    rw [run_bind_of_ok (attempt_of_ok ht')]
    exact carries_writeAnswer h (fun _ _ => rfl) i _ t' ht a u hu

end Nodes

mutual

theorem carries_execNodes (h : Carried host V R) (hj : j.Carry host V R j') :
    (nodes : List Node) → Body.Within V nodes →
    Carries host R (execNodes j nodes) (execNodes j' nodes) fun _ => True
  | [], _ => carries_pure trivial
  | n :: ns, hnodes =>
    have ⟨hn, hns⟩ := List.forall_mem_cons.mp hnodes
    carries_bind (carries_exec h hj n hn) fun _ _ => carries_execNodes h hj ns hns

theorem carries_exec (h : Carried host V R) (hj : j.Carry host V R j') :
    (n : Node) → n.Within V → Carries host R (n.exec j) (n.exec j') fun _ => True
  | .text s, _ => carries_write h s
  | .output p e, .output _ he =>
    carries_located p (carries_bind (carries_eval h hj e he) fun v _ => carries_writeValue h v)
  | .tag _ p statement, .tag _ hstatement =>
    carries_located p (carries_statement h hj statement hstatement)

theorem carries_statement (h : Carried host V R) (hj : j.Carry host V R j') :
    (statement : Statement) → statement.Within V →
    Carries host R (statement.exec j) (statement.exec j') fun _ => True
  | .branch branches otherwise, .branch hconditions hbodies hotherwise =>
    carries_execBranches h hj (carries_execOptional h hj otherwise hotherwise) branches hconditions
      hbodies
  | .compare lhs rhs negated body otherwise, .compare hlhs hrhs hbody hotherwise => by
    refine carries_bind (carries_eval h hj lhs hlhs) fun a _ => ?_
    refine carries_bind (carries_eval h hj rhs hrhs) fun b _ => ?_
    split
    · exact carries_execNodes h hj body hbody
    · exact carries_execOptional h hj otherwise hotherwise
  | .loop first second source reversed sorted body empty, .loop hforloop hsource hbody hempty => by
    have hbody := carries_execNodes h hj body hbody
    have hempty := carries_execOptional h hj empty hempty
    refine carries_bind (carries_eval h hj source hsource) fun v hv => ?_
    refine carries_bind (carries_visitsOf hv _ _ _) fun visits hvisits => ?_
    split
    · exact hempty
    · refine carries_get_bind fun i s s' hs => ?_
      obtain ⟨hsame, hparent⟩ := h.lookup hs hforloop
      rw [← hsame]
      exact carries_forEach h first second hparent _ hbody 0 hvisits
  | .cycle values target silent, .cycle hforloop hvalues => by
    refine carries_get_bind fun i s s' hs => ?_
    obtain ⟨hsame, -⟩ := h.lookup hs hforloop
    rw [← hsame]
    have hchosen (i : Nat) : (values.getD i default).Within V := by
      rw [List.getD_eq_getElem?_getD]
      cases hi : values[i]? with
      | none => exact .literal _
      | some e => exact hvalues e (List.mem_of_getElem? hi)
    refine carries_bind (carries_eval h hj _ (hchosen _)) fun v hv => ?_
    have hwrite : Carries host R (if !silent then Render.writeValue v else pure ())
        (if !silent then Render.writeValue v else pure ()) fun _ => True := by
      split
      · exact carries_writeValue h v
      · exact carries_pure trivial
    cases target with
    | none => exact hwrite
    | some name => exact carries_bind (carries_assign h name hv) fun _ _ => hwrite
  | .firstOf values, .firstOf hvalues => by
    refine carries_bind (carries_firstTrue h hj hvalues) fun found _ => ?_
    cases found with
    | none => exact carries_pure trivial
    | some v => exact carries_writeValue h v
  | .block name body, .block hname hbody =>
    carries_renderBlock h hj hname (carries_execNodes h hj body hbody)
  | .includes target base bindings only ifExists, .includes htarget hbindings => by
    refine carries_bind (carries_find h hj htarget base ifExists) fun found hfound => ?_
    cases found with
    | none => exact carries_pure trivial
    | some t =>
      have ht := carries_render h hj (hfound t rfl)
      refine carries_bind (carries_evalBindings h hj hbindings) fun values hvalues => ?_
      refine carries_deeper h _ ?_
      split
      · exact carries_isolated h hvalues ht
      · exact carries_inScope h hvalues ht
  | .imports macros, .imports hmacros =>
    carries_import h fun m hm => (Classical.em (V.imported m.2)).elim h.imported (hmacros m hm)
  | .bind bindings body, .bind hbindings hbody =>
    carries_bind (carries_evalBindings h hj hbindings) fun _ hvalues =>
      carries_inScope h hvalues (carries_execNodes h hj body hbody)
  | .assign name e, .assign he =>
    carries_bind (carries_eval h hj e he) fun _ hv => carries_assign h name hv
  | .define m, .define hm => carries_assign h m.name (within_ofMacro hm)
  | .escaping enabled body, .escaping hbody =>
    carries_within (h.escaping enabled) (carries_execNodes h hj body hbody)
  | .filtering filters body, .filtering hfilters hbody =>
    carries_bind (carries_capture h (carries_execNodes h hj body hbody)) fun text _ =>
      carries_bind (carries_evalFilters h hj filters hfilters (.safe text)) fun v _ =>
        carries_writeValue h v
  | .spaceless body, .spaceless hbody =>
    carries_bind (carries_capture h (carries_execNodes h hj body hbody)) fun _ _ =>
      carries_write h _
  | .nothing, _ => carries_pure trivial
  | .now format fake, _ => by
    refine carries_read_bind ?_
    dsimp only
    split
    · exact carries_writeValue h _
    · exact carries_fail _ _
  | .write text, _ => carries_write h text
  | .ratio value most width target, .ratio hvalue hmost hwidth => by
    refine carries_bind (carries_ratioNumber h hj _ hvalue) fun value _ => ?_
    refine carries_bind (carries_ratioNumber h hj _ hmost) fun most _ => ?_
    refine carries_bind (carries_ratioNumber h hj _ hwidth) fun width _ => ?_
    cases target with
    | none => exact carries_write h _
    | some name => exact carries_assign h name (.int _)
  | .custom steps, .custom hsteps => carries_execSteps h hj steps hsteps

theorem carries_execSteps (h : Carried host V R) (hj : j.Carry host V R j') :
    (steps : List Step) → (∀ step ∈ steps, step.Within V) →
    Carries host R (execSteps j steps) (execSteps j' steps) fun _ => True
  | [], _ => carries_pure trivial
  | step :: steps, hall =>
    have ⟨hstep, hsteps⟩ := List.forall_mem_cons.mp hall
    carries_bind (carries_step h hj step hstep) fun _ _ => carries_execSteps h hj steps hsteps

theorem carries_step (h : Carried host V R) (hj : j.Carry host V R j') :
    (step : Step) → step.Within V →
    Carries host R (step.exec j) (step.exec j') fun _ => True
  | .write text, _ => carries_write h text
  | .run body, .run hbody => carries_execNodes h hj body hbody
  | .captured key body, .captured hbody =>
    carries_captured h key (carries_execNodes h hj body hbody)
  | .shown _ e, .shown he =>
    carries_bind (carries_eval h hj e he) fun _ _ =>
      carries_read_bind (carries_writeAnswer h fun _ _ => rfl)

theorem carries_execBranches (h : Carried host V R) (hj : j.Carry host V R j')
    {otherwise otherwise' : Render Unit}
    (ho : Carries host R otherwise otherwise' fun _ => True) :
    (branches : List (Expr × List Node)) → (∀ b ∈ branches, b.1.Within V) →
    (∀ b ∈ branches, Body.Within V b.2) →
    Carries host R (execBranches j otherwise branches) (execBranches j' otherwise' branches)
      fun _ => True
  | [], _, _ => ho
  | ⟨condition, body⟩ :: branches, hconditions, hbodies => by
    obtain ⟨hcondition, hconditions⟩ := List.forall_mem_cons.mp hconditions
    obtain ⟨hbody, hbodies⟩ := List.forall_mem_cons.mp hbodies
    refine carries_bind (carries_eval h hj condition hcondition) fun v _ => ?_
    split
    · exact carries_execNodes h hj body hbody
    · exact carries_execBranches h hj ho branches hconditions hbodies

theorem carries_execOptional (h : Carried host V R) (hj : j.Carry host V R j') :
    (body : Option (List Node)) → (∀ b ∈ body, Body.Within V b) →
    Carries host R (execOptional j body) (execOptional j' body) fun _ => True
  | none, _ => carries_pure trivial
  | some body, hbody => carries_execNodes h hj body (hbody body rfl)

end

/-- A render is carried by one that may nest at least as many jumps. -/
theorem carry_upTo (h : Carried host V R) {fuel fuel' : Nat} (hfuel : fuel ≤ fuel') :
    (Jumps.upTo fuel).Carry host V R (Jumps.upTo fuel') := by
  induction fuel generalizing fuel' with
  | zero =>
    exact ⟨fun _ => carries_throw _ _, fun _ => carries_throw _ _, fun _ => carries_throw _ _⟩
  | succ fuel ih =>
    obtain ⟨more, rfl⟩ := Nat.exists_eq_add_of_le' hfuel
    have hj := ih (Nat.le_add_left fuel more)
    exact ⟨carries_execNodes h hj _, carries_execNodes h hj _, carries_eval h hj _⟩

end Stencil
