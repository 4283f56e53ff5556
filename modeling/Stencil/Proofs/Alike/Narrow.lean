import Stencil.Proofs.Alike.Likeness
import Stencil.Proofs.Names

/-!
# Narrower likenesses

Trees that are alike can be taken apart in the same way, into parts that are alike. So it is with
those that are alike and have nothing to do with some variable (`without_unfolds`), and with those
that are alike but for serial numbers (`numbered_unfolds`).
-/

namespace Stencil

namespace Likeness

/-- Trees that are alike, and in which the variable `v` is neither read nor bound. -/
def without (v : String) (L : Likeness) : Likeness :=
  { L with
    name := fun n => L.name n ∧ n ≠ v
    expr := fun e e' => L.expr e e' ∧ v ∉ e.names
    body := fun nodes nodes' => L.body nodes nodes' ∧ v ∉ nodeNames nodes
    callee := fun m m' => L.callee m m' ∧ v ∉ m.names
    template := fun t t' => L.template t t' ∧ v ∉ t.names
    included := fun base t e => L.included base t e ∧ v ∉ t.names
    extended := fun base t e p => L.extended base t e p ∧ v ∉ t.names
    value := fun _ _ => False }

/-- Trees that are alike without their serial numbers. -/
def numbered (L : Likeness) : Likeness :=
  { L with
    body := fun nodes nodes' => L.body (unnumberedNodes nodes) (unnumberedNodes nodes')
    callee := fun m m' => L.callee m.unnumbered m'.unnumbered
    template := fun t t' => L.template t.unnumbered t'.unnumbered
    included := fun base t e => L.included base t.unnumbered e
    extended := fun base t e p => L.extended base t.unnumbered e p
    value := fun _ _ => False }

end Likeness

variable {L : Likeness}

/-! ## Without a variable -/

section Without

variable {v : String}

theorem not_mem_append_iff {names names' : List String} :
    v ∉ names ++ names' ↔ v ∉ names ∧ v ∉ names' := by
  rw [List.mem_append, not_or]

theorem not_mem_cons_iff {name : String} {names : List String} :
    v ∉ name :: names ↔ name ≠ v ∧ v ∉ names := by
  rw [List.mem_cons, not_or, eq_comm]

theorem not_mem_toList_iff {name? : Option String} :
    v ∉ name?.toList ↔ ∀ name ∈ name?, name ≠ v := by
  cases name? with
  | none => simp
  | some name => simp [eq_comm]

theorem forall₂_of_not_mem_flatMap {α α' : Type} {R S : α → α' → Prop} {f : α → List String}
    {l : List α} {l' : List α'} (h : List.Forall₂ R l l') (hv : v ∉ l.flatMap f)
    (hS : ∀ a a', R a a' → v ∉ f a → S a a') : List.Forall₂ S l l' := by
  induction h with
  | nil => exact .nil
  | cons ha _ ih =>
    rw [List.flatMap_cons, not_mem_append_iff] at hv
    exact .cons (hS _ _ ha hv.1) (ih hv.2)

theorem forall₂_expr_without {es es' : List Expr} (h : List.Forall₂ L.expr es es')
    (hv : v ∉ exprNames es) : List.Forall₂ (L.without v).expr es es' :=
  forall₂_of_not_mem_flatMap h (exprNames_eq es ▸ hv) fun _ _ he hv => ⟨he, hv⟩

theorem rel_expr_without {e e' : Option Expr} (h : Option.Rel L.expr e e') (hv : v ∉ argNames e) :
    Option.Rel (L.without v).expr e e' := by
  cases h with
  | none => exact .none
  | some he => exact .some ⟨he, hv⟩

theorem rel_body_without {body body' : Option Body} (h : Option.Rel L.body body body')
    (hv : v ∉ optionalNames body) : Option.Rel (L.without v).body body body' := by
  cases h with
  | none => exact .none
  | some hbody => exact .some ⟨hbody, hv⟩

theorem Segment.Congruent.without {s s' : Segment} (h : s.Congruent L s') (hv : v ∉ s.names) :
    s.Congruent (L.without v) s' := by
  cases h with
  | attr => exact .attr _
  | index => exact .index _
  | subscript hkey => exact .subscript ⟨hkey, hv⟩
  | call hargs => exact .call (forall₂_expr_without hargs hv)

theorem FilterCall.Congruent.without {f f' : FilterCall} (h : f.Congruent L f')
    (hv : v ∉ f.names) : f.Congruent (L.without v) f' := by
  cases h with
  | mk _ _ harg hp => exact .mk _ _ (rel_expr_without harg hv) hp

theorem forall₂_filter_without {fs fs' : List FilterCall}
    (h : List.Forall₂ (FilterCall.Congruent L) fs fs') (hv : v ∉ filterNames fs) :
    List.Forall₂ (FilterCall.Congruent (L.without v)) fs fs' :=
  forall₂_of_not_mem_flatMap h (filterNames_eq fs ▸ hv) fun _ _ => FilterCall.Congruent.without

theorem Expr.Congruent.without {e e' : Expr} (h : e.Congruent L e') (hv : v ∉ e.names) :
    e.Congruent (L.without v) e' := by
  cases h with
  | literal => exact .literal _
  | array hitems => exact .array (forall₂_expr_without hitems hv)
  | @path name segments segments' p p' hname hsegments hp =>
    obtain ⟨hne, hv⟩ := not_mem_cons_iff.mp hv
    exact .path ⟨hname, hne⟩ (forall₂_of_not_mem_flatMap hsegments
      (segmentNames_eq segments ▸ hv) fun _ _ => Segment.Congruent.without) hp
  | unary _ he hp => exact .unary _ ⟨he, hv⟩ hp
  | binary _ ha hb hp =>
    obtain ⟨hv, hv'⟩ := not_mem_append_iff.mp hv
    exact .binary _ ⟨ha, hv⟩ ⟨hb, hv'⟩ hp
  | filtered he hfilters =>
    obtain ⟨hv, hv'⟩ := not_mem_append_iff.mp hv
    exact .filtered ⟨he, hv⟩ (forall₂_filter_without hfilters hv')

theorem Target.Congruent.without {base : String} {target target' : Target}
    (h : target.Congruent L base target') (hv : v ∉ target.names) :
    target.Congruent (L.without v) base target' := by
  cases h with
  | linked ht => exact .linked ⟨ht, hv⟩
  | named he => exact .named ⟨he, hv⟩
  | loose ht => exact .loose ⟨ht, hv⟩

theorem Parent.Congruent.without {base : String} {parent parent' : Parent}
    (h : parent.Congruent L base parent') (hv : v ∉ parent.names) :
    parent.Congruent (L.without v) base parent' := by
  cases h with
  | linked ht => exact .linked ⟨ht, hv⟩
  | named he hp => exact .named ⟨he, hv⟩ hp
  | loose ht => exact .loose ⟨ht, hv⟩

theorem Step.Congruent.without {step step' : Step} (h : step.Congruent L step')
    (hv : v ∉ step.names) : step.Congruent (L.without v) step' := by
  cases h with
  | write => exact .write _
  | run hbody => exact .run ⟨hbody, hv⟩
  | captured _ hbody => exact .captured _ ⟨hbody, hv⟩
  | shown _ he => exact .shown _ ⟨he, hv⟩

theorem forall₂_binding_without {bindings bindings' : List (String × Expr)}
    (h : List.Forall₂ (L.entry L.expr) bindings bindings') (hv : v ∉ bindingNames bindings) :
    List.Forall₂ ((L.without v).entry (L.without v).expr) bindings bindings' := by
  refine forall₂_of_not_mem_flatMap h hv fun b b' hb hv => ?_
  obtain ⟨hne, hv⟩ := not_mem_cons_iff.mp hv
  exact ⟨hb.1, ⟨hb.2.1, hne⟩, hb.2.2, hv⟩

theorem Statement.Congruent.without {s s' : Statement} (h : s.Congruent L s') (hv : v ∉ s.names) :
    s.Congruent (L.without v) s' := by
  cases h with
  | @branch branches branches' otherwise otherwise' hbranches hotherwise =>
    obtain ⟨hv, hv'⟩ := not_mem_append_iff.mp hv
    refine .branch (forall₂_of_not_mem_flatMap hbranches (branchNames_eq branches ▸ hv) ?_)
      (rel_body_without hotherwise hv')
    intro b b' hb hv
    obtain ⟨hv, hv'⟩ := not_mem_append_iff.mp hv
    exact ⟨⟨hb.1, hv⟩, hb.2, hv'⟩
  | compare _ hlhs hrhs hbody hotherwise =>
    simp only [Statement.names, not_mem_append_iff] at hv
    obtain ⟨⟨⟨hl, hr⟩, hb⟩, ho⟩ := hv
    exact .compare _ ⟨hlhs, hl⟩ ⟨hrhs, hr⟩ ⟨hbody, hb⟩ (rel_body_without hotherwise ho)
  | loop _ _ hfirst hsecond hforloop hsource hbody hempty =>
    simp only [Statement.names, not_mem_cons_iff, not_mem_append_iff, not_mem_toList_iff,
      List.cons_append] at hv
    obtain ⟨hl, hf, ⟨⟨hn, hs⟩, hb⟩, he⟩ := hv
    exact .loop _ _ ⟨hfirst, hf⟩ (fun name h => ⟨hsecond name h, hn name h⟩) ⟨hforloop, hl⟩
      ⟨hsource, hs⟩ ⟨hbody, hb⟩ (rel_body_without hempty he)
  | cycle _ hforloop hvalues hname =>
    simp only [Statement.names, not_mem_cons_iff, not_mem_append_iff, not_mem_toList_iff,
      List.cons_append] at hv
    obtain ⟨hl, ht, hv⟩ := hv
    exact .cycle _ ⟨hforloop, hl⟩ (forall₂_expr_without hvalues hv)
      fun name h => ⟨hname name h, ht name h⟩
  | firstOf hvalues => exact .firstOf (forall₂_expr_without hvalues hv)
  | block _ hbody => exact .block _ ⟨hbody, hv⟩
  | includes _ _ htarget hbindings =>
    obtain ⟨hv, hv'⟩ := not_mem_append_iff.mp hv
    exact .includes _ _ (htarget.without hv) (forall₂_binding_without hbindings hv')
  | @imports macros macros' hmacros =>
    have hv : v ∉ macroNames macros := hv
    refine .imports (forall₂_of_not_mem_flatMap hmacros (macroNames_eq macros ▸ hv) ?_)
    intro m m' hm hv
    obtain ⟨hne, hv⟩ := not_mem_cons_iff.mp hv
    exact ⟨hm.1, ⟨hm.2.1, hne⟩, hm.2.2, hv⟩
  | bind hbindings hbody =>
    obtain ⟨hv, hv'⟩ := not_mem_append_iff.mp hv
    exact .bind (forall₂_binding_without hbindings hv) ⟨hbody, hv'⟩
  | assign hname he =>
    obtain ⟨hne, hv⟩ := not_mem_cons_iff.mp hv
    exact .assign ⟨hname, hne⟩ ⟨he, hv⟩
  | define hname hm =>
    obtain ⟨hne, hv⟩ := not_mem_cons_iff.mp hv
    exact .define ⟨hname, hne⟩ ⟨hm, hv⟩
  | escaping _ hbody => exact .escaping _ ⟨hbody, hv⟩
  | filtering hfilters hbody =>
    obtain ⟨hv, hv'⟩ := not_mem_append_iff.mp hv
    exact .filtering (forall₂_filter_without hfilters hv) ⟨hbody, hv'⟩
  | spaceless hbody => exact .spaceless ⟨hbody, hv⟩
  | nothing => exact .nothing
  | now => exact .now _ _
  | write => exact .write _
  | ratio hvalue hmost hwidth hname =>
    simp only [Statement.names, not_mem_append_iff, not_mem_toList_iff] at hv
    obtain ⟨⟨⟨hv, hm⟩, hw⟩, ht⟩ := hv
    exact .ratio ⟨hvalue, hv⟩ ⟨hmost, hm⟩ ⟨hwidth, hw⟩ fun name h => ⟨hname name h, ht name h⟩
  | @custom steps steps' hsteps =>
    have hv : v ∉ stepNames steps := hv
    exact .custom (forall₂_of_not_mem_flatMap hsteps (stepNames_eq steps ▸ hv)
      fun _ _ => Step.Congruent.without)

theorem Node.Congruent.without {n n' : Node} (h : n.Congruent L n') (hv : v ∉ n.names) :
    n.Congruent (L.without v) n' := by
  cases h with
  | text => exact .text _
  | output hp he => exact .output hp ⟨he, hv⟩
  | tag _ hp hs => exact .tag _ hp (hs.without hv)

theorem forall₂_node_without {nodes nodes' : List Node}
    (h : List.Forall₂ (Node.Congruent L) nodes nodes') (hv : v ∉ nodeNames nodes) :
    List.Forall₂ (Node.Congruent (L.without v)) nodes nodes' :=
  forall₂_of_not_mem_flatMap h (nodeNames_eq nodes ▸ hv) fun _ _ => Node.Congruent.without

theorem Macro.Congruent.without {m m' : Macro} (h : m.Congruent L m') (hv : v ∉ m.names) :
    m.Congruent (L.without v) m' := by
  obtain ⟨name, params, body, exported⟩ := m
  obtain ⟨hparams, hbody⟩ := not_mem_append_iff.mp hv
  refine ⟨h.name, forall₂_of_not_mem_flatMap h.params hparams fun p p' hp hv => ?_, h.body, hbody⟩
  obtain ⟨hne, hv⟩ := not_mem_cons_iff.mp hv
  exact ⟨hp.1, ⟨hp.2.1, hne⟩, rel_expr_without hp.2.2 hv⟩

theorem Template.Congruent.without {t t' : Template} (h : t.Congruent L t') (hv : v ∉ t.names) :
    t.Congruent (L.without v) t' := by
  have hv : v ∉ nodeNames t.nodes ∧ v ∉ parentNames t.parent ∧ v ∉ bodyNames t.blocks := by
    obtain ⟨_, _, _, nodes, parent, blocks, _, _, _, _⟩ := t
    rw [← and_assoc, ← not_mem_append_iff, ← not_mem_append_iff]
    exact hv
  obtain ⟨hnodes, hparent, hblocks⟩ := hv
  refine ⟨h.name, ⟨h.nodes, hnodes⟩, ?_, fun name => ?_⟩
  · have hrel := h.parent
    revert hrel hparent
    generalize t.parent = parent
    generalize t'.parent = parent'
    rintro hparent (hp | _)
    · exact .some (hp.without hparent)
    · exact .none
  · have hrel := h.block name
    revert hrel
    generalize hfound : t.block? name = body
    generalize t'.block? name = body'
    rintro (hbody | _)
    · refine .some ⟨hbody, fun hmem => hblocks ?_⟩
      rw [bodyNames_eq]
      exact List.mem_flatMap.mpr ⟨_, Table.mem_of_get? hfound, hmem⟩
    · exact .none

/-- Trees that are alike without a variable are made in the same way of such trees. -/
theorem without_unfolds (hL : L.Unfolds) (v : String) : (L.without v).Unfolds where
  expr h := (hL.expr h.1).without h.2
  body h := forall₂_node_without (hL.body h.1) h.2
  callee h := (hL.callee h.1).without h.2
  template h := (hL.template h.1).without h.2
  value h := h.elim

end Without

/-! ## With serial numbers -/

section Numbered

theorem rel_body_numbered {body body' : Option Body}
    (h : Option.Rel L.body (unnumberedOptional body) (unnumberedOptional body')) :
    Option.Rel L.numbered.body body body' := by
  cases body <;> cases body' <;> cases h
  · exact .none
  · exact .some ‹_›

theorem Target.Congruent.numbered {base : String} {target target' : Target}
    (h : target.unnumbered.Congruent L base target'.unnumbered) :
    target.Congruent L.numbered base target' := by
  cases target <;> cases target' <;> cases h
  · exact .linked ‹_›
  · exact .loose ‹_›
  · exact .named ‹_›

theorem Parent.Congruent.numbered {base : String} {parent parent' : Parent}
    (h : parent.unnumbered.Congruent L base parent'.unnumbered) :
    parent.Congruent L.numbered base parent' := by
  cases parent <;> cases parent' <;> cases h
  · exact .linked ‹_›
  · exact .loose ‹_›
  · exact .named ‹_› ‹_›

theorem Step.Congruent.numbered {step step' : Step}
    (h : step.unnumbered.Congruent L step'.unnumbered) : step.Congruent L.numbered step' := by
  cases step <;> cases step' <;> cases h
  · exact .write _
  · exact .run ‹_›
  · exact .captured _ ‹_›
  · exact .shown _ ‹_›

theorem le_numbered (L : Likeness) : L.LeExpr L.numbered :=
  ⟨fun _ => id, fun _ _ => id, fun _ _ => id⟩

theorem Statement.Congruent.numbered {s s' : Statement}
    (h : s.unnumbered.Congruent L s'.unnumbered) : s.Congruent L.numbered s' := by
  cases s <;> cases s' <;> cases h
  case branch.branch.branch hbranches hotherwise =>
    rw [unnumberedBranches_eq, unnumberedBranches_eq, List.forall₂_map_left_iff,
      List.forall₂_map_right_iff] at hbranches
    exact .branch hbranches (rel_body_numbered hotherwise)
  case compare.compare.compare hlhs hrhs hbody hotherwise =>
    exact .compare _ hlhs hrhs hbody (rel_body_numbered hotherwise)
  case loop.loop.loop hforloop hfirst hsecond hsource hbody hempty =>
    exact .loop _ _ hfirst hsecond hforloop hsource hbody (rel_body_numbered hempty)
  case cycle.cycle.cycle hforloop hname hvalues => exact .cycle _ hforloop hvalues hname
  case firstOf.firstOf.firstOf hvalues => exact .firstOf hvalues
  case block.block.block hbody => exact .block _ hbody
  case includes.includes.includes htarget hbindings =>
    exact .includes _ _ htarget.numbered hbindings
  case imports.imports.imports hmacros =>
    rw [unnumberedMacros_eq, unnumberedMacros_eq, Table.change, Table.change,
      List.forall₂_map_left_iff, List.forall₂_map_right_iff] at hmacros
    exact .imports hmacros
  case bind.bind.bind hbindings hbody => exact .bind hbindings hbody
  case assign.assign.assign hname he => exact .assign hname he
  case define.define.define m m' hname hm =>
    cases m
    exact .define hname hm
  case escaping.escaping.escaping hbody => exact .escaping _ hbody
  case filtering.filtering.filtering hfilters hbody =>
    exact .filtering (hfilters.imp fun _ _ => FilterCall.Congruent.mono (le_numbered L)) hbody
  case spaceless.spaceless.spaceless hbody => exact .spaceless hbody
  case nothing.nothing.nothing => exact .nothing
  case now.now.now => exact .now _ _
  case write.write.write => exact .write _
  case ratio.ratio.ratio hname hvalue hmost hwidth => exact .ratio hvalue hmost hwidth hname
  case custom.custom.custom hsteps =>
    rw [unnumberedSteps_eq, unnumberedSteps_eq, List.forall₂_map_left_iff,
      List.forall₂_map_right_iff] at hsteps
    exact .custom (hsteps.imp fun _ _ => Step.Congruent.numbered)

theorem Node.Congruent.numbered {n n' : Node} (h : n.unnumbered.Congruent L n'.unnumbered) :
    n.Congruent L.numbered n' := by
  cases n <;> cases n' <;> cases h
  case text.text.text => exact .text _
  case output.output.output hp he => exact .output hp he
  case tag.tag.tag hp hs => exact .tag _ hp hs.numbered

theorem Macro.Congruent.numbered {m m' : Macro} (h : m.unnumbered.Congruent L m'.unnumbered) :
    m.Congruent L.numbered m' := by
  cases m
  cases m'
  exact ⟨h.name, h.params, h.body⟩

theorem rel_map_iff {α α' β β' : Type} {R : β → β' → Prop} {f : α → β} {f' : α' → β'}
    {o : Option α} {o' : Option α'} :
    Option.Rel R (o.map f) (o'.map f') ↔ Option.Rel (fun a a' => R (f a) (f' a')) o o' := by
  constructor
  · intro h
    cases o <;> cases o' <;> cases h
    · exact .none
    · exact .some ‹_›
  · rintro (h | _)
    · exact .some h
    · exact .none

theorem Template.Congruent.numbered {t t' : Template}
    (h : t.unnumbered.Congruent L t'.unnumbered) : t.Congruent L.numbered t' := by
  have hblock (name : String) := h.block name
  simp only [block?_unnumbered, rel_map_iff] at hblock
  cases t
  cases t'
  refine ⟨h.name, h.nodes, ?_, hblock⟩
  have hparent := h.parent
  simp only [Template.unnumbered, unnumberedParent_eq, rel_map_iff] at hparent
  exact rel_mono (fun _ _ => Parent.Congruent.numbered) hparent

/-- Trees that are alike but for serial numbers are made in the same way of such trees. -/
theorem numbered_unfolds (hL : L.Unfolds) : L.numbered.Unfolds where
  expr h := (hL.expr h).mono (le_numbered L)
  body h := by
    have h := hL.body h
    rw [unnumberedNodes_eq, unnumberedNodes_eq, List.forall₂_map_left_iff,
      List.forall₂_map_right_iff] at h
    exact h.imp fun _ _ => Node.Congruent.numbered
  callee h := (hL.callee h).numbered
  template h := (hL.template h).numbered
  value h := h.elim

end Numbered

end Stencil
