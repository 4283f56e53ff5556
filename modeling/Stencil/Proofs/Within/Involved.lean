import Stencil.Proofs.Within.Sound

/-!
# Templates that take part in a render

A render of a template that a set gives fails, if it fails at some position, at a token of a
template that takes part in it (`places_of_execute`).
-/

namespace Stencil

open Render

variable {r : Run} {l : Library} {fuel : Nat} {s : State}

/-! ## Templates at hand -/

section Templates

/-- The places of a template that takes part are among those of the run. -/
theorem own_le_places {t : Template} (hinvolved : r.Involves l t)
    (hheld : t = r.template ∨ l.Holds t.name t.source) :
    (Vocabulary.own l.settings.trimming t.name t.source l.Furnishes).Le (r.places l) where
  name := id
  block := id
  lookup := id
  position := fun ⟨ts, hread, htoken⟩ => ⟨t, hinvolved, hheld, ts, hread, htoken⟩
  linked := id
  imported := id

theorem within_of_finds {room : Nat} {t : Template} {younger : List Template}
    (finds : r.Finds fuel room t younger s) (ht : (r.places l).Links t) : t.Within (r.places l) :=
  (Classical.em (l.Furnishes t)).elim
    (fun furnished => furnished.within.mono (own_le_places (.found finds) (.inr furnished.held))) ht

theorem within_of_imports {macros : List (String × Macro)} {m : String × Macro}
    (stage : r.Stage fuel (.statement (.imports macros)) s) (mem : m ∈ macros)
    (hm : ¬(r.places l).imported m.2 → m.2.Within (r.places l)) : m.2.Within (r.places l) := by
  refine (Classical.em ((r.places l).imported m.2)).elim (fun himported => ?_) hm
  obtain ⟨t, furnished, e, he, heq⟩ := himported
  have hinvolved : r.Involves l t := .imported stage mem furnished ⟨e, he, heq⟩
  exact heq ▸ (furnished.within.mono (own_le_places hinvolved (.inr furnished.held))).macros e he

variable (hr : r.Fair l)
include hr

theorem within_template : r.template.Within (r.places l) :=
  hr.template.mono (own_le_places (.found .rendered) (.inl rfl))

/-- What is loaded is furnished. -/
theorem sound_attempt_load (referrer : Option String) (name : String) :
    r.SoundAt l s (attempt (load referrer name)) ((r.places l).Answers l.Furnishes) := by
  intro hs
  unfold attempt load
  cases hset : s.set with
  | none => exact ⟨rfl, hs, nofun⟩
  | some l' =>
    have hasked := hs.set l' hset
    obtain ⟨-, hresult⟩ := abidesAt_load (stocking_furnished hr.honest)
      (furnished_of_asked hr.honest hr.cache hasked) referrer name
    have hleft : State.Within (r.places l) (l.Asked {})
        { s with set := some (Library.load referrer name l').2 } :=
      { hs with set := fun | _, rfl => hasked.load referrer name }
    dsimp only [ExceptT.run, StateT.run]
    generalize Library.load referrer name l' = e at hresult hleft ⊢
    obtain ⟨(e | _) | t, left⟩ := e
    · refine ⟨rfl, hleft, Error.Unread.within (e := e) ?_⟩
      exact Error.Unread.mono hresult fun _ => trivial
    · exact ⟨rfl, hleft, trivial⟩
    · exact ⟨rfl, hleft, hresult⟩

end Templates

/-! ## Templates by name -/

section Names

theorem sound_templateName (fault : String → RunFault) (v : Value) :
    r.SoundAt l s (templateName fault v) fun _ => True := by
  unfold templateName
  split
  · exact sound_pure trivial
  · exact sound_fail _

theorem sound_requireSet : r.SoundAt l s requireSet fun _ => True := by
  refine sound_get_bind fun _ => ?_
  split
  · exact sound_fail _
  · exact sound_pure trivial

theorem within_explain {V : Vocabulary} {e : Error} (he : e.Within V) (fault : String → RunFault) :
    (explain fault e).Within V := by
  unfold explain
  split
  · exact nofun
  · exact he

variable (hr : r.Fair l) (hj : ∀ fuel', fuel = fuel' + 1 → r.SoundUpTo l fuel')
include hr hj

theorem sound_find {target : Target} {base : String} {bindings : List (String × Expr)}
    {only ifExists : Bool}
    (stage : r.Stage fuel (.statement (.includes target base bindings only ifExists)) s)
    (htarget : target.Within (r.places l)) :
    r.SoundAt l s (target.find? (.upTo fuel) base ifExists)
      fun found => ∀ t ∈ found, (r.places l).Links t := by
  cases htarget with
  | linked ht => exact sound_pure fun | _, rfl => ht
  | named _ he =>
    refine sound_bind (sound_eval hr hj _ he (stage.turn .includeName)) fun v _ _ _ => ?_
    refine sound_bind (sound_templateName _ v) fun name _ _ _ => ?_
    refine sound_bind sound_requireSet fun _ _ _ _ => ?_
    refine sound_bind (sound_attempt_load hr _ name) fun result _ _ hresult => ?_
    split
    · exact sound_pure fun | _, rfl, hfree => (hfree hresult).elim
    · split
      · exact sound_pure nofun
      · exact sound_throw (within_explain hresult _)

theorem sound_parent {room : Nat} {t : Template} {younger : List Template}
    (finds : r.Finds fuel room t younger s) (ht : t.Within (r.places l)) :
    r.SoundAt l s (t.parent? (.upTo fuel)) fun found => ∀ u ∈ found, (r.places l).Links u := by
  have hparent := ht.parent
  have hnamed {e p} := Run.Stage.named (e := e) (p := p) finds
  unfold Template.parent?
  generalize t.parent = parent at hparent hnamed ⊢
  rcases parent with _ | parent
  · exact sound_pure nofun
  cases hparent parent rfl with
  | linked hu => exact sound_pure fun | _, rfl => hu
  | @named e p _ he hp =>
    refine sound_bind (A := fun _ => True) (sound_located hp ?_) fun name _ _ _ => ?_
    · exact sound_bind (sound_eval hr hj e he (hnamed rfl)) fun v _ _ _ => sound_templateName _ v
    refine sound_bind sound_requireSet fun _ _ _ _ => sound_located hp ?_
    refine sound_bind (sound_attempt_load hr _ name) fun result _ _ hresult => ?_
    split
    · exact sound_pure fun | _, rfl, hfree => (hfree hresult).elim
    · exact sound_throw (within_explain hresult _)

end Names

/-! ## Inheritance -/

section Inheritance

/-- The chain of a template ends at the one that has no parent. -/
theorem exists_of_ancestry {youngest : Template} {limit room : Nat} {oldest : Template}
    {younger chain : List Template} {s' : State} (finds : r.Finds fuel room oldest younger s)
    (h : ancestry (.upTo fuel) youngest limit room oldest (oldest :: younger) r.host s =
      (.ok chain, s')) :
    ∃ room' root rest s₁, chain = root :: rest ∧ r.Finds fuel room' root rest s₁ ∧
      root.parent? (.upTo fuel) r.host s₁ = (.ok none, s') := by
  induction room generalizing oldest younger s with
  | zero =>
    unfold ancestry at h
    obtain ⟨_ | parent, t, hfound, h⟩ := exists_of_run_bind h
    · cases h
      exact ⟨_, _, _, _, rfl, finds, hfound⟩
    · dsimp only at h
      split at h <;> cases h
  | succ room ih =>
    unfold ancestry at h
    obtain ⟨_ | parent, t, hfound, h⟩ := exists_of_run_bind h
    · cases h
      exact ⟨_, _, _, _, rfl, finds, hfound⟩
    · dsimp only at h
      split at h
      · cases h
      · exact ih (.parent finds hfound ‹_›) h

variable (hr : r.Fair l) (hj : ∀ fuel', fuel = fuel' + 1 → r.SoundUpTo l fuel')
include hr hj

theorem sound_ancestry (youngest : Template) (limit room : Nat) {oldest : Template}
    {younger : List Template} (finds : r.Finds fuel room oldest younger s)
    (hchain : ∀ t ∈ oldest :: younger, t.Within (r.places l)) :
    r.SoundAt l s (ancestry (.upTo fuel) youngest limit room oldest (oldest :: younger))
      fun chain => ∀ t ∈ chain, t.Within (r.places l) := by
  induction room generalizing oldest younger s with
  | zero =>
    unfold ancestry
    refine sound_bind (sound_parent hr hj finds (hchain _ List.mem_cons_self))
      fun found _ _ _ => ?_
    split
    · exact sound_pure hchain
    · split <;> exact sound_fail _
  | succ room ih =>
    unfold ancestry
    refine sound_bind (sound_parent hr hj finds (hchain _ List.mem_cons_self))
      fun found t done hfound => ?_
    split
    · exact sound_pure hchain
    · rename_i parent
      split
      · exact sound_fail _
      · rename_i fresh
        have hfinds : r.Finds fuel room parent (oldest :: younger) t := .parent finds done fresh
        have hparent := within_of_finds hfinds (hfound parent rfl)
        exact ih hfinds (List.forall_mem_cons.mpr ⟨hparent, hchain⟩)

theorem sound_render {t : Template} (finds : r.Finds fuel (s.recursionLimit - 1) t [] s)
    (ht : t.Within (r.places l)) :
    r.SoundAt l s (t.render (.upTo fuel)) fun _ => True := by
  refine sound_bind (A := fun chain => ∀ t ∈ chain, t.Within (r.places l)) ?_
    fun chain s' done hchain => ?_
  · exact sound_get_bind fun _ =>
      sound_ancestry hr hj t _ _ finds (List.forall_mem_singleton.mpr ht)
  · have hchained : ancestry (.upTo fuel) t s.recursionLimit (s.recursionLimit - 1) t [t] r.host s =
        (.ok chain, s') := done
    obtain ⟨room, root, rest, s₁, rfl, hfinds, none⟩ := exists_of_ancestry finds hchained
    refine sound_withChain hchain (sound_run hj (hchain root List.mem_cons_self).nodes ?_)
    rintro fuel' rfl
    exact .root hfinds none

omit hr in
theorem sound_renderBlock {name : String} {own : Body}
    (stage : r.Stage fuel (.statement (.block name own)) s)
    (hown : r.Stage fuel (.nodes own) { s with blocks := [] :: s.blocks } →
      r.SoundAt l { s with blocks := [] :: s.blocks } (execNodes (.upTo fuel) own) fun _ => True) :
    r.SoundAt l s (renderBlock (.upTo fuel) name (execNodes (.upTo fuel) own)) fun _ => True := by
  refine sound_get_bind fun hs => ?_
  split
  · rename_i none
    exact sound_withBlock nofun (hown (.own stage none))
  · rename_i body overridden some
    have hbodies : ∀ b ∈ body :: overridden, Body.Within (r.places l) b := by
      intro b hb
      obtain ⟨t, ht, hfound⟩ := List.mem_filterMap.mp (List.mem_reverse.mp (some ▸ hb))
      exact (hs.chain t ht).block? hfound
    obtain ⟨hbody, hoverridden⟩ := List.forall_mem_cons.mp hbodies
    refine sound_withBlock hoverridden (sound_run hj hbody ?_)
    rintro fuel' rfl
    exact .youngest stage some

end Inheritance

/-! ## Nodes -/

section Parts

variable (hr : r.Fair l) (hj : ∀ fuel', fuel = fuel' + 1 → r.SoundUpTo l fuel')

theorem sound_visitsOf_bind {β : Type} {B : β → Prop} {v : Value} (hv : v.Within (r.places l))
    {two reversed sorted : Bool} {f : List (Value × Value) → Render β}
    (hf : ∀ visits, Loop.visits r.host.sorter v two reversed sorted = some visits →
      (∀ visit ∈ visits, visit.1.Within (r.places l) ∧ visit.2.Within (r.places l)) →
      r.SoundAt l s (f visits) B) :
    r.SoundAt l s (visitsOf v two reversed sorted >>= f) B := by
  cases hvisits : Loop.visits r.host.sorter v two reversed sorted with
  | some visits =>
    intro hs
    rw [run_bind_of_ok (run_visitsOf hvisits)]
    exact hf visits hvisits (within_visits hv hvisits) hs
  | none =>
    refine sound_bind (A := fun _ => False) (sound_read_bind ?_) fun _ _ _ h => h.elim
    rw [hvisits]
    exact sound_throw trivial

theorem sound_import {macros : List (String × Macro)}
    (hmacros : ∀ m ∈ macros, m.2.Within (r.places l)) :
    r.SoundAt l s (modify fun s => macros.foldl (fun s e => s.bind e.1 (.func (.ofMacro e.2))) s)
      fun _ => True := by
  intro hs
  have hfold : (macros.foldl (fun s e => s.bind e.1 (.func (.ofMacro e.2))) s).blocks = s.blocks ∧
      (macros.foldl (fun s e => s.bind e.1 (.func (.ofMacro e.2))) s).Within (r.places l)
        (l.Asked {}) := by
    induction macros generalizing s with
    | nil => exact ⟨rfl, hs⟩
    | cons m macros ih =>
      obtain ⟨hm, hmacros⟩ := List.forall_mem_cons.mp hmacros
      obtain ⟨hblocks, hleft⟩ := ih hmacros (hs.bind m.1 (within_ofMacro hm))
      exact ⟨hblocks.trans (rests_bind s m.1 _).blocks, hleft⟩
  exact ⟨hfold.1, hfold.2, trivial⟩

/-- The body of a loop is run at a stage of its own for each visit. -/
theorem sound_forEach {first : String} {second : Option String} {parent : Value}
    (hparent : parent.Within (r.places l)) {total : Nat} {body : Body}
    (hbody : ∀ {s}, r.Stage fuel (.nodes body) s →
      r.SoundAt l s (execNodes (.upTo fuel) body) fun _ => True)
    {i : Nat} {visits : List (Value × Value)}
    (hvisits : ∀ visit ∈ visits, visit.1.Within (r.places l) ∧ visit.2.Within (r.places l))
    (stage : r.Stage fuel (.visits first second parent total body i visits) s) :
    r.SoundAt l s (forEach first second parent total (execNodes (.upTo fuel) body) i visits)
      fun _ => True := by
  induction visits generalizing i s with
  | nil => exact sound_pure trivial
  | cons visit visits ih =>
    obtain ⟨hvisit, hvisits⟩ := List.forall_mem_cons.mp hvisits
    refine sound_bind (sound_inScope ?_ (hbody (stage.turn .visit))) fun _ _ done _ =>
      ih hvisits (stage.turn (.nextVisit done))
    refine List.forall_mem_cons.mpr ⟨within_counters i total hparent, ?_⟩
    cases second with
    | none => exact List.forall_mem_singleton.mpr hvisit.2
    | some second =>
      exact List.forall_mem_cons.mpr ⟨hvisit.1, List.forall_mem_singleton.mpr hvisit.2⟩

include hr hj

theorem sound_evalBindings {bindings : List (String × Expr)}
    (hbindings : ∀ b ∈ bindings, b.2.Within (r.places l))
    (stage : r.Stage fuel (.bindings bindings) s) :
    r.SoundAt l s (evalBindings (.upTo fuel) bindings)
      fun values => ∀ b ∈ values, b.2.Within (r.places l) := by
  induction bindings generalizing s with
  | nil => exact sound_pure nofun
  | cons b rest ih =>
    obtain ⟨he, hrest⟩ := List.forall_mem_cons.mp hbindings
    exact sound_bind (sound_eval hr hj b.2 he (stage.turn .binding)) fun _ _ done hv =>
      sound_bind (ih hrest (stage.turn (.nextBinding done))) fun _ _ _ hvalues =>
        sound_pure (List.forall_mem_cons.mpr ⟨hv, hvalues⟩)

theorem sound_firstTrue {es : List Expr} (hes : ∀ e ∈ es, e.Within (r.places l))
    (stage : r.Stage fuel (.firstOf es) s) :
    r.SoundAt l s (firstTrue (.upTo fuel) es) fun _ => True := by
  induction es generalizing s with
  | nil => exact sound_pure trivial
  | cons e es ih =>
    obtain ⟨he, hes⟩ := List.forall_mem_cons.mp hes
    refine sound_bind (sound_eval hr hj e he (stage.turn .candidate)) fun v _ done _ => ?_
    split
    · exact sound_pure trivial
    · exact ih hes (stage.turn (.nextCandidate done ‹_›))

theorem sound_ratioNumber (what : String) {e : Expr} (he : e.Within (r.places l))
    (stage : r.Stage fuel (.expr e) s) :
    r.SoundAt l s (ratioNumber (.upTo fuel) what e) fun _ => True := by
  refine sound_bind (sound_eval hr hj e he stage) fun v _ _ _ => ?_
  split
  · exact sound_pure trivial
  · exact sound_fail _

theorem sound_includes {target : Target} {base : String} {bindings : List (String × Expr)}
    {only ifExists : Bool} (htarget : target.Within (r.places l))
    (hbindings : ∀ b ∈ bindings, b.2.Within (r.places l))
    (stage : r.Stage fuel (.statement (.includes target base bindings only ifExists)) s) :
    r.SoundAt l s ((Statement.includes target base bindings only ifExists).exec (.upTo fuel))
      fun _ => True := by
  unfold Statement.exec
  refine sound_bind (sound_find hr hj stage htarget) fun found _ hfound hlinks => ?_
  cases found with
  | none => exact sound_pure trivial
  | some t =>
    refine sound_bind (sound_evalBindings hr hj hbindings (stage.turn (.includeBindings hfound)))
      fun values s' hbound hvalues => sound_deeper _ fun shallow => ?_
    have hfinds := Run.Finds.included stage hfound hbound shallow
    have ht := within_of_finds hfinds (hlinks t rfl)
    cases only with
    | true => exact sound_isolated hvalues (sound_render hr hj hfinds ht)
    | false => exact sound_inScope hvalues (sound_render hr hj hfinds ht)

end Parts

section Nodes

mutual

theorem sound_execNodes (hr : r.Fair l) (hj : ∀ fuel', fuel = fuel' + 1 → r.SoundUpTo l fuel') :
    (nodes : List Node) → Body.Within (r.places l) nodes → {s : State} →
    r.Stage fuel (.nodes nodes) s → r.SoundAt l s (execNodes (.upTo fuel) nodes) fun _ => True
  | [], _, _, _ => sound_pure trivial
  | n :: ns, hnodes, _, stage =>
    have ⟨hn, hns⟩ := List.forall_mem_cons.mp hnodes
    sound_bind (sound_exec hr hj n hn stage) fun _ _ done _ =>
      sound_execNodes hr hj ns hns (stage.turn (.nextNode done))

theorem sound_exec (hr : r.Fair l) (hj : ∀ fuel', fuel = fuel' + 1 → r.SoundUpTo l fuel') :
    (n : Node) → n.Within (r.places l) → {ns : List Node} → {s : State} →
    r.Stage fuel (.nodes (n :: ns)) s → r.SoundAt l s (n.exec (.upTo fuel)) fun _ => True
  | .text s, _, _, _, _ => sound_write s
  | .output _ e, .output hp he, _, _, stage =>
    sound_located hp (sound_bind (sound_eval hr hj e he (stage.turn .output)) fun v _ _ _ =>
      sound_writeValue v)
  | .tag _ _ statement, .tag hp hstatement, _, _, stage =>
    sound_located hp (sound_statement hr hj statement hstatement (stage.turn .tag))

theorem sound_statement (hr : r.Fair l) (hj : ∀ fuel', fuel = fuel' + 1 → r.SoundUpTo l fuel') :
    (statement : Statement) → statement.Within (r.places l) → {s : State} →
    r.Stage fuel (.statement statement) s →
    r.SoundAt l s (statement.exec (.upTo fuel)) fun _ => True
  | .branch branches otherwise, .branch hconditions hbodies hotherwise, _, stage =>
    sound_execBranches hr hj (sound_execOptional hr hj otherwise hotherwise) branches hconditions
      hbodies (stage.turn .branch)
  | .compare lhs rhs negated body otherwise, .compare hlhs hrhs hbody hotherwise, _, stage => by
    refine sound_bind (sound_eval hr hj lhs hlhs (stage.turn .lhs)) fun a _ done _ => ?_
    refine sound_bind (sound_eval hr hj rhs hrhs (stage.turn (.rhs done))) fun b _ done' _ => ?_
    split
    · exact sound_execNodes hr hj body hbody (stage.turn (.compared done done' ‹_›))
    · rename_i fails
      refine sound_execOptional hr hj otherwise hotherwise fun b hb => ?_
      obtain rfl : otherwise = some b := hb
      exact stage.turn (.notCompared done done' fails)
  | .loop first second source reversed sorted body empty, .loop _ hsource hbody hempty, _,
      stage => by
    have hbody {s} := sound_execNodes hr hj body hbody (s := s)
    have hempty {s} := sound_execOptional hr hj empty hempty (s := s)
    refine sound_bind (sound_eval hr hj source hsource (stage.turn .source)) fun v t done hv => ?_
    refine sound_visitsOf_bind hv fun visits hsome hvisits => ?_
    split
    · refine hempty fun b hb => ?_
      obtain rfl : empty = some b := hb
      exact stage.turn (.empty done hsome)
    · exact sound_get_bind fun hs =>
        sound_forEach (hs.lookup "forloop") hbody hvisits (stage.turn (.visits done hsome))
  | .cycle values target silent, .cycle _ hvalues, s, stage => by
    have hchosen (i : Nat) : (values.getD i default).Within (r.places l) := by
      rw [List.getD_eq_getElem?_getD]
      cases hi : values[i]? with
      | none => exact .literal _
      | some e => exact hvalues e (List.mem_of_getElem? hi)
    refine sound_get_bind fun hs => ?_
    refine sound_bind (sound_eval hr hj _ (hchosen _) (stage.turn .cycled)) fun v _ _ hv => ?_
    have hwrite {t : State} : r.SoundAt l t (if !silent then Render.writeValue v else pure ())
        fun _ => True := by
      split
      · exact sound_writeValue v
      · exact sound_pure trivial
    cases target with
    | none => exact hwrite
    | some name => exact sound_bind (sound_assign name hv) fun _ _ _ _ => hwrite
  | .firstOf values, .firstOf hvalues, _, stage => by
    refine sound_bind (sound_firstTrue hr hj hvalues (stage.turn .firstOf)) fun found _ _ _ => ?_
    cases found with
    | none => exact sound_pure trivial
    | some v => exact sound_writeValue v
  | .block name body, .block _ hbody, _, stage =>
    sound_renderBlock hj stage (sound_execNodes hr hj body hbody)
  | .includes target base bindings only ifExists, .includes htarget hbindings, _, stage =>
    sound_includes hr hj htarget hbindings stage
  | .imports macros, .imports hmacros, _, stage =>
    sound_import fun m hm => within_of_imports stage hm (hmacros m hm)
  | .bind bindings body, .bind hbindings hbody, _, stage =>
    sound_bind (sound_evalBindings hr hj hbindings (stage.turn .withBindings))
      fun _ _ done hvalues =>
        sound_inScope hvalues (sound_execNodes hr hj body hbody (stage.turn (.withBody done)))
  | .assign name e, .assign he, _, stage =>
    sound_bind (sound_eval hr hj e he (stage.turn .assigned)) fun _ _ _ hv => sound_assign name hv
  | .define m, .define hm, _, _ => sound_assign m.name (within_ofMacro hm)
  | .escaping enabled body, .escaping hbody, _, stage =>
    sound_withAutoescape enabled (sound_execNodes hr hj body hbody (stage.turn .escaping))
  | .filtering filters body, .filtering hfilters hbody, _, stage =>
    sound_bind (sound_capture (sound_execNodes hr hj body hbody (stage.turn .filtering)))
      fun text _ done _ =>
        sound_bind (sound_evalFilters hr hj filters hfilters (.safe text)
          (stage.turn (.filteringText done))) fun v _ _ _ => sound_writeValue v
  | .spaceless body, .spaceless hbody, _, stage =>
    sound_bind (sound_capture (sound_execNodes hr hj body hbody (stage.turn .spaceless)))
      fun _ _ _ _ => sound_write _
  | .nothing, _, _, _ => sound_pure trivial
  | .now format fake, _, _, _ => by
    refine sound_read_bind ?_
    dsimp only
    split
    · exact sound_writeValue _
    · exact sound_fail _
  | .write text, _, _, _ => sound_write text
  | .ratio value most width target, .ratio hvalue hmost hwidth, _, stage => by
    refine sound_bind (sound_ratioNumber hr hj _ hvalue (stage.turn .ratioValue))
      fun x _ done _ => ?_
    refine sound_bind (sound_ratioNumber hr hj _ hmost (stage.turn (.ratioMost done)))
      fun y _ done' _ => ?_
    refine sound_bind (sound_ratioNumber hr hj _ hwidth (stage.turn (.ratioWidth done done')))
      fun z _ _ _ => ?_
    cases target with
    | none => exact sound_write _
    | some name => exact sound_assign name (.int _)
  | .custom steps, .custom hsteps, _, stage =>
    sound_execSteps hr hj steps hsteps (stage.turn .custom)

theorem sound_execSteps (hr : r.Fair l) (hj : ∀ fuel', fuel = fuel' + 1 → r.SoundUpTo l fuel') :
    (steps : List Step) → (∀ step ∈ steps, step.Within (r.places l)) → {s : State} →
    r.Stage fuel (.steps steps) s → r.SoundAt l s (execSteps (.upTo fuel) steps) fun _ => True
  | [], _, _, _ => sound_pure trivial
  | step :: steps, hall, _, stage =>
    have ⟨hstep, hsteps⟩ := List.forall_mem_cons.mp hall
    sound_bind (sound_step hr hj step hstep stage) fun _ _ done _ =>
      sound_execSteps hr hj steps hsteps (stage.turn (.nextStep done))

theorem sound_step (hr : r.Fair l) (hj : ∀ fuel', fuel = fuel' + 1 → r.SoundUpTo l fuel') :
    (step : Step) → step.Within (r.places l) → {steps : List Step} → {s : State} →
    r.Stage fuel (.steps (step :: steps)) s → r.SoundAt l s (step.exec (.upTo fuel)) fun _ => True
  | .write text, _, _, _, _ => sound_write text
  | .run body, .run hbody, _, _, stage => sound_execNodes hr hj body hbody (stage.turn .ran)
  | .captured key body, .captured hbody, _, _, stage =>
    sound_bind (sound_attempt (sound_capture (sound_execNodes hr hj body hbody
      (stage.turn .captured)))) fun _ _ _ hresult =>
        sound_read_bind (sound_writeAnswer (hr.host.captured key hresult))
  | .shown key e, .shown he, _, _, stage =>
    sound_bind (sound_eval hr hj e he (stage.turn .shown)) fun _ _ _ hv =>
      sound_read_bind (sound_writeAnswer (hr.host.shown key hv))

theorem sound_execBranches (hr : r.Fair l) (hj : ∀ fuel', fuel = fuel' + 1 → r.SoundUpTo l fuel')
    {otherwise : Option (List Node)}
    (hotherwise : ∀ {s}, (∀ b ∈ otherwise, r.Stage fuel (.nodes b) s) →
      r.SoundAt l s (execOptional (.upTo fuel) otherwise) fun _ => True) :
    (branches : List (Expr × List Node)) → (∀ b ∈ branches, b.1.Within (r.places l)) →
    (∀ b ∈ branches, Body.Within (r.places l) b.2) → {s : State} →
    r.Stage fuel (.branches branches otherwise) s →
    r.SoundAt l s
      (execBranches (.upTo fuel) (execOptional (.upTo fuel) otherwise) branches) fun _ => True
  | [], _, _, _, stage => by
    refine hotherwise fun b hb => ?_
    obtain rfl : otherwise = some b := hb
    exact stage.turn .otherwise
  | ⟨condition, body⟩ :: branches, hconditions, hbodies, _, stage => by
    obtain ⟨hcondition, hconditions⟩ := List.forall_mem_cons.mp hconditions
    obtain ⟨hbody, hbodies⟩ := List.forall_mem_cons.mp hbodies
    refine sound_bind (sound_eval hr hj condition hcondition (stage.turn .condition))
      fun v _ done _ => ?_
    split
    · exact sound_execNodes hr hj body hbody (stage.turn (.chosen done ‹_›))
    · exact sound_execBranches hr hj hotherwise branches hconditions hbodies
        (stage.turn (.nextBranch done ‹_›))

theorem sound_execOptional (hr : r.Fair l) (hj : ∀ fuel', fuel = fuel' + 1 → r.SoundUpTo l fuel') :
    (body : Option (List Node)) → (∀ b ∈ body, Body.Within (r.places l) b) → {s : State} →
    (∀ b ∈ body, r.Stage fuel (.nodes b) s) →
    r.SoundAt l s (execOptional (.upTo fuel) body) fun _ => True
  | none, _, _, _ => sound_pure trivial
  | some body, hbody, _, stage => sound_execNodes hr hj body (hbody body rfl) (stage body rfl)

end

end Nodes

/-! ## Runs -/

section Runs

theorem soundUpTo (hr : r.Fair l) (fuel : Nat) : r.SoundUpTo l fuel := by
  have hnext {fuel : Nat} (hj : ∀ fuel', fuel = fuel' + 1 → r.SoundUpTo l fuel') :
      r.SoundUpTo l fuel :=
    ⟨fun stage hbody => sound_execNodes hr hj _ hbody stage,
      fun stage he => sound_eval hr hj _ he stage⟩
  induction fuel with
  | zero => exact hnext nofun
  | succ fuel ih => exact hnext fun _ heq => Nat.succ.inj heq ▸ ih

/-- The run in which the template is executed. -/
def Template.run (t : Template) (host : Host) (set : Option Library) (context : Bindings)
    (out : Sink) : Run :=
  ⟨host, t, .start set context t.options out, jumpDepth⟩

variable {host : Host} {t : Template} {set : Option Library} {context : Bindings} {out : Sink}

/-- A template that is executed ends within the places of the templates that take part. -/
theorem places_of_execute (hr : (t.run host set context out).Fair l)
    (hset : ∀ l' ∈ set, l.Asked {} l' ∧ Bindings.Within ((t.run host set context out).places l)
      l'.globals)
    (hcontext : Bindings.Within ((t.run host set context out).places l) context) :
    Ends (fun _ => True) (Halt.Within ((t.run host set context out).places l))
      (t.execute host set context out).1 := by
  have hstart : State.Within ((t.run host set context out).places l) (l.Asked {})
      (.start set context t.options out) := by
    refine ⟨fun l' hl' => (hset l' hl').1, hcontext, ?_,
      List.forall_mem_singleton.mpr baseScope_within, nofun, nofun⟩
    cases set with
    | none => nofun
    | some l' => exact (hset l' rfl).2
  unfold Template.execute
  dsimp only
  cases hnames : checkNames context with
  | error e =>
    obtain ⟨_, -, -, rfl⟩ := exists_of_checkNames hnames
    exact nofun
  | ok =>
    have hjumps fuel' (_ : jumpDepth = fuel' + 1) := soundUpTo hr fuel'
    exact (sound_render hr hjumps .rendered (within_template hr) hstart).result

end Runs

end Stencil
