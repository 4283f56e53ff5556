import Stencil.Proofs.Alike.Filters
import Stencil.Proofs.Alike.Same
import Stencil.Proofs.Alike.Likeness
import Stencil.Proofs.Table
import Stencil.Proofs.Within.Vocabulary

/-!
# Equality within a vocabulary

Two things are alike within a vocabulary if they are equal and mention only what the vocabulary
allows. This is a likeness whose laws hold: what a tree within the vocabulary is made of is within
it, and so is what the operations on values and the built-in filters make of values within it.
-/

namespace Stencil

section Laws

/-- Equal things of which `P` holds. -/
def EqualIn {α : Type} (P : α → Prop) (a a' : α) : Prop := a = a' ∧ P a

/-- A family of sets that load only templates within the vocabulary, and errors of reading where it
says. What may be linked to or imported freely is within the vocabulary as well. -/
structure Vocabulary.Supplied (V : Vocabulary) (known : Library → Prop) : Prop where
  template : ∀ {l referrer name t}, known l → (Library.load referrer name l).1 = .ok t → t.Within V
  error : ∀ {l referrer name e}, known l → (Library.load referrer name l).1 = .error (.error e) →
    e.Within V
  left : ∀ {l} referrer name, known l → known (Library.load referrer name l).2
  linked : ∀ t, V.linked t → t.Within V
  imported : ∀ m, V.imported m → m.Within V

/-- Nothing outside of the vocabulary may be linked to. -/
theorem Vocabulary.Supplied.of_links (h : V.Supplied known) {t : Template} (ht : V.Links t) :
    t.Within V := (Classical.em (V.linked t)).elim (h.linked t) ht

/-- The likeness by which all is equal and within the vocabulary. -/
def Likeness.within (V : Vocabulary) (known : Library → Prop) : Likeness where
  name _ := True
  position := EqualIn V.position
  expr := EqualIn (Expr.Within V)
  body := EqualIn (Body.Within V)
  callee := EqualIn (Macro.Within V)
  template := EqualIn (Template.Within V)
  value := EqualIn (Value.Within V)
  error := EqualIn (Error.Within V)
  set := EqualIn fun o => ∀ l ∈ o, known l
  scope := EqualIn (Bindings.Within V)
  context := EqualIn (Bindings.Within V)
  globals := EqualIn (Bindings.Within V)
  included _ _ _ := False
  extended _ _ _ _ := False

variable {V : Vocabulary} {known : Library → Prop} {host : Host}

/-! ### Lists -/

section Lists

variable {α β : Type} {P : α → Prop}

theorem forall₂_equalIn {R : α → α → Prop} {l : List α} (h : ∀ a ∈ l, R a a) :
    List.Forall₂ R l l := List.forall₂_same.mpr h

theorem forall₂_equalIn_iff {l l' : List α} :
    List.Forall₂ (EqualIn P) l l' ↔ l = l' ∧ ∀ a ∈ l, P a := by
  constructor
  · intro h
    induction h with
    | nil => exact ⟨rfl, nofun⟩
    | cons h _ ih => exact ⟨congrArg₂ _ h.1 ih.1, List.forall_mem_cons.mpr ⟨h.2, ih.2⟩⟩
  · rintro ⟨rfl, h⟩
    exact forall₂_equalIn fun a ha => ⟨rfl, h a ha⟩

theorem rel_equalIn {R : α → α → Prop} {o : Option α} (h : ∀ a ∈ o, R a a) : Option.Rel R o o := by
  cases o with
  | none => exact .none
  | some a => exact .some (h a rfl)

theorem rel_equalIn_iff {o o' : Option α} :
    Option.Rel (EqualIn P) o o' ↔ o = o' ∧ ∀ a ∈ o, P a := by
  constructor
  · rintro (⟨rfl, h⟩ | _)
    · exact ⟨rfl, fun | _, rfl => h⟩
    · exact ⟨rfl, nofun⟩
  · rintro ⟨rfl, h⟩
    exact rel_equalIn fun a ha => ⟨rfl, h a ha⟩

theorem forall₂_field_iff {entries entries' : List (String × Value)} :
    List.Forall₂ (Likeness.within V known).field entries entries' ↔
      entries = entries' ∧ ∀ e ∈ entries, e.2.Within V := by
  have hfield : (Likeness.within V known).field = EqualIn fun e => e.2.Within V := by
    funext e e'
    exact propext ⟨fun h => ⟨Prod.ext h.1 h.2.1, h.2.2⟩,
      fun h => ⟨congrArg Prod.fst h.1, congrArg Prod.snd h.1, h.2⟩⟩
  rw [hfield, forall₂_equalIn_iff]

end Lists

/-! ### Trees -/

section Trees

variable (known)

theorem Segment.Within.congruent {segment : Segment} (h : segment.Within V) :
    segment.Congruent (.within V known) segment := by
  cases h with
  | attr name => exact .attr name
  | index n => exact .index n
  | subscript hkey => exact .subscript ⟨rfl, hkey⟩
  | call hargs => exact .call (forall₂_equalIn fun e he => ⟨rfl, hargs e he⟩)

theorem FilterCall.Within.congruent {f : FilterCall} (h : f.Within V) :
    f.Congruent (.within V known) f := by
  cases h with
  | mk harg hp => exact .mk _ _ (rel_equalIn fun e he => ⟨rfl, harg e he⟩) ⟨rfl, hp⟩

theorem filters_congruent {filters : List FilterCall} (h : ∀ f ∈ filters, f.Within V) :
    List.Forall₂ (FilterCall.Congruent (.within V known)) filters filters :=
  forall₂_equalIn fun f hf => (h f hf).congruent known

theorem Expr.Within.congruent {e : Expr} (h : e.Within V) : e.Congruent (.within V known) e := by
  cases h with
  | literal l => exact .literal l
  | array hitems => exact .array (forall₂_equalIn fun e he => ⟨rfl, hitems e he⟩)
  | path _ hsegments hp =>
    exact .path trivial (forall₂_equalIn fun s hs => (hsegments s hs).congruent known) ⟨rfl, hp⟩
  | unary he hp => exact .unary _ ⟨rfl, he⟩ ⟨rfl, hp⟩
  | binary ha hb hp => exact .binary _ ⟨rfl, ha⟩ ⟨rfl, hb⟩ ⟨rfl, hp⟩
  | filtered he hfilters => exact .filtered ⟨rfl, he⟩ (filters_congruent known hfilters)

theorem exprs_congruent {es : List Expr} (h : ∀ e ∈ es, e.Within V) :
    List.Forall₂ (Likeness.within V known).expr es es := forall₂_equalIn fun e he => ⟨rfl, h e he⟩

theorem bindings_congruent {bindings : List (String × Expr)} (h : ∀ b ∈ bindings, b.2.Within V) :
    List.Forall₂ ((Likeness.within V known).entry (Likeness.within V known).expr) bindings
      bindings := forall₂_equalIn fun b hb => ⟨rfl, trivial, rfl, h b hb⟩

theorem optional_congruent {body : Option Body} (h : ∀ b ∈ body, Body.Within V b) :
    Option.Rel (Likeness.within V known).body body body := rel_equalIn fun b hb => ⟨rfl, h b hb⟩

theorem Step.Within.congruent {step : Step} (h : step.Within V) :
    step.Congruent (.within V known) step := by
  cases h with
  | write text => exact .write text
  | run hbody => exact .run ⟨rfl, hbody⟩
  | captured hbody => exact .captured _ ⟨rfl, hbody⟩
  | shown he => exact .shown _ ⟨rfl, he⟩

theorem Macro.Within.congruent {m : Macro} (h : m.Within V) : m.Congruent (.within V known) m where
  name := rfl
  params := forall₂_equalIn fun p hp =>
    ⟨rfl, trivial, rel_equalIn fun e he => ⟨rfl, h.params p hp e he⟩⟩
  body := ⟨rfl, h.body⟩

theorem Template.Within.block? {t : Template} (h : t.Within V) {name : String} {body : Body}
    (hbody : t.block? name = some body) : Body.Within V body :=
  h.blocks _ (Table.mem_of_get? (t := t.blocks) hbody)

variable {known} (hsupplied : V.Supplied known)
include hsupplied

theorem Target.Within.congruent {target : Target} (h : target.Within V) (base : String) :
    Target.Congruent (.within V known) base target target := by
  cases h with
  | linked ht => exact .linked ⟨rfl, hsupplied.of_links ht⟩
  | named _ he => exact .named ⟨rfl, he⟩

theorem Parent.Within.congruent {parent : Parent} (h : parent.Within V) (base : String) :
    Parent.Congruent (.within V known) base parent parent := by
  cases h with
  | linked ht => exact .linked ⟨rfl, hsupplied.of_links ht⟩
  | named _ he hp => exact .named ⟨rfl, he⟩ ⟨rfl, hp⟩

theorem Statement.Within.congruent {statement : Statement} (h : statement.Within V) :
    statement.Congruent (.within V known) statement := by
  cases h with
  | branch hconditions hbodies hotherwise =>
    exact .branch (forall₂_equalIn fun b hb => ⟨⟨rfl, hconditions b hb⟩, rfl, hbodies b hb⟩)
      (optional_congruent known hotherwise)
  | compare hlhs hrhs hbody hotherwise =>
    exact .compare _ ⟨rfl, hlhs⟩ ⟨rfl, hrhs⟩ ⟨rfl, hbody⟩ (optional_congruent known hotherwise)
  | loop _ hsource hbody hempty =>
    exact .loop _ _ trivial (fun _ _ => trivial) trivial ⟨rfl, hsource⟩ ⟨rfl, hbody⟩
      (optional_congruent known hempty)
  | cycle _ hvalues => exact .cycle _ trivial (exprs_congruent known hvalues) fun _ _ => trivial
  | firstOf hvalues => exact .firstOf (exprs_congruent known hvalues)
  | block _ hbody => exact .block _ ⟨rfl, hbody⟩
  | includes htarget hbindings =>
    exact .includes _ _ (htarget.congruent hsupplied _) (bindings_congruent known hbindings)
  | imports hmacros =>
    refine .imports (forall₂_equalIn fun m hm => ⟨rfl, trivial, rfl, ?_⟩)
    exact (Classical.em (V.imported m.2)).elim (hsupplied.imported m.2) (hmacros m hm)
  | bind hbindings hbody => exact .bind (bindings_congruent known hbindings) ⟨rfl, hbody⟩
  | assign he => exact .assign trivial ⟨rfl, he⟩
  | define hm => exact .define trivial ⟨rfl, hm⟩
  | escaping hbody => exact .escaping _ ⟨rfl, hbody⟩
  | filtering hfilters hbody => exact .filtering (filters_congruent known hfilters) ⟨rfl, hbody⟩
  | spaceless hbody => exact .spaceless ⟨rfl, hbody⟩
  | nothing => exact .nothing
  | now format fake => exact .now format fake
  | write text => exact .write text
  | ratio hvalue hmost hwidth =>
    exact .ratio ⟨rfl, hvalue⟩ ⟨rfl, hmost⟩ ⟨rfl, hwidth⟩ fun _ _ => trivial
  | custom hsteps => exact .custom (forall₂_equalIn fun step hs => (hsteps step hs).congruent known)

theorem Node.Within.congruent {n : Node} (h : n.Within V) : n.Congruent (.within V known) n := by
  cases h with
  | text s => exact .text s
  | output hp he => exact .output ⟨rfl, hp⟩ ⟨rfl, he⟩
  | tag hp hstatement => exact .tag _ ⟨rfl, hp⟩ (hstatement.congruent hsupplied)

theorem Template.Within.congruent {t : Template} (h : t.Within V) :
    t.Congruent (.within V known) t where
  name := rfl
  nodes := ⟨rfl, h.nodes⟩
  parent := rel_equalIn fun parent hparent => (h.parent parent hparent).congruent hsupplied t.name
  block _ := rel_equalIn fun _ hbody => ⟨rfl, h.block? hbody⟩

end Trees

/-! ### Values -/

theorem Value.Within.congruent (known : Library → Prop) {v : Value} (h : v.Within V) :
    v.Congruent (.within V known) v := by
  cases h with
  | nil => exact .nil
  | bool b => exact .bool b
  | int n => exact .int n
  | float x => exact .float x
  | str s => exact .str s
  | safe s => exact .safe s
  | seq hitems => exact .seq (forall₂_equalIn_iff.mpr ⟨rfl, hitems⟩)
  | map hentries => exact .map (forall₂_field_iff.mpr ⟨rfl, hentries⟩)
  | record hattrs hitems hvisits =>
    exact .record ⟨rfl, forall₂_field_iff.mpr ⟨rfl, hattrs⟩, forall₂_equalIn_iff.mpr ⟨rfl, hitems⟩,
      rfl, rel_equalIn fun vs hvs => forall₂_equalIn_iff.mpr ⟨rfl, hvisits vs hvs⟩, rfl, rfl⟩
  | @func f hf =>
    refine .func ⟨rfl, rfl, rfl, rfl, ?_⟩
    generalize f.callback = callback at hf ⊢
    cases hf with
    | body hm => exact .body ⟨rfl, hm⟩
    | super => exact .super
    | host hdata => exact .host _ ⟨rfl, hdata⟩

theorem within_le_same : (Likeness.within V known).Le .same where
  name _ _ := trivial
  position _ _ h := h.1
  expr _ _ h := h.1
  body _ _ h := h.1
  callee _ _ h := h.1
  template _ _ h := h.1
  value _ _ h := h.1
  included _ _ _ h := h
  extended _ _ _ _ h := h

theorem value_congruent_iff {v v' : Value} :
    EqualIn (Value.Within V) v v' ↔ v.Congruent (.within V known) v' := by
  constructor
  · rintro ⟨rfl, h⟩
    exact h.congruent known
  · intro h
    have heq : v = v' := Value.congruent_same.mpr (h.mono within_le_same)
    subst heq
    refine ⟨rfl, ?_⟩
    cases h with
    | nil => exact .nil
    | bool b => exact .bool b
    | int n => exact .int n
    | float x => exact .float x
    | str s => exact .str s
    | safe s => exact .safe s
    | seq hitems => exact .seq (forall₂_equalIn_iff.mp hitems).2
    | map hentries => exact .map (forall₂_field_iff.mp hentries).2
    | record hr =>
      refine .record (forall₂_field_iff.mp hr.attrs).2 (forall₂_equalIn_iff.mp hr.items).2 ?_
      intro vs hvs
      have hvisits := hr.visits
      rw [hvs] at hvisits
      cases hvisits with
      | some h => exact (forall₂_equalIn_iff.mp h).2
    | @func f _ hf =>
      have hcallback := hf.callback
      refine .func ?_
      generalize f.callback = callback at hcallback ⊢
      cases hcallback with
      | body hm => exact .body hm.2
      | super => exact .super
      | host _ hdata => exact .host hdata.2

theorem valued_within : (Likeness.within V known).Valued := ⟨value_congruent_iff⟩

/-! ### The laws -/

theorem rel_get? {b b' : Bindings} (h : EqualIn (Bindings.Within V) b b') (name : String) :
    Option.Rel (EqualIn (Value.Within V)) (b.get? name) (b'.get? name) := by
  obtain ⟨rfl, h⟩ := h
  exact rel_equalIn fun v hv => ⟨rfl, h (name, v) (Table.mem_of_get? hv)⟩

theorem bindings_within_insert {b : Bindings} (h : Bindings.Within V b) (name : String) {v : Value}
    (hv : v.Within V) : Bindings.Within V (b.insert name v) :=
  Table.forall_mem_insert (p := fun v => Value.Within V v) h hv

theorem baseScope_within : Bindings.Within V State.baseScope := by
  refine List.forall_mem_singleton.mpr (.map (List.forall_mem_singleton.mpr (.func ?_)))
  exact .super

/-- Equality within a vocabulary is a likeness if the sets load only templates within it. -/
theorem coherent_within (h : V.Supplied known) : (Likeness.within V known).Coherent where
  run _ := ⟨rfl, nofun⟩
  located := by
    rintro p _ e _ ⟨rfl, hp⟩ ⟨rfl, he⟩
    refine ⟨rfl, ?_⟩
    cases e with
    | execution o =>
      cases o with
      | none => exact fun | _, rfl => hp
      | some => exact he
    | _ => exact he
  inFilter := by
    rintro p _ e _ name ⟨rfl, hp⟩ ⟨rfl, he⟩
    refine ⟨rfl, ?_⟩
    cases e with
    | execution o =>
      cases o with
      | none => exact fun | _, rfl => hp
      | some => exact he
    | _ => exact he
  isLoader h := congrArg Error.isLoader h.1
  explain := by
    rintro e _ fault ⟨rfl, he⟩
    refine ⟨rfl, ?_⟩
    unfold explain
    split
    · exact nofun
    · exact he
  expr := by
    rintro e _ ⟨rfl, he⟩
    exact he.congruent known
  literal l := ⟨rfl, .literal l⟩
  body := by
    rintro nodes _ ⟨rfl, hnodes⟩
    exact forall₂_equalIn fun n hn => (hnodes n hn).congruent h
  callee := by
    rintro m _ ⟨rfl, hm⟩
    exact hm.congruent known
  template := by
    rintro t _ ⟨rfl, ht⟩
    exact ht.congruent h
  value := value_congruent_iff
  lookup hb _ := rel_get? hb _
  context hb _ := rel_get? hb _
  globals hb _ := rel_get? hb _
  empty := ⟨rfl, nofun⟩
  insert := by
    rintro b _ name v _ ⟨rfl, hb⟩ - ⟨rfl, hv⟩
    exact ⟨rfl, bindings_within_insert hb name hv⟩
  base := ⟨rfl, baseScope_within⟩
  isNone h := congrArg Option.isNone h.1
  load := by
    rintro l _ referrer name ⟨⟨⟩, hl⟩
    have hl := hl l rfl
    refine ⟨?_, rfl, fun | _, rfl => h.left referrer name hl⟩
    cases hresult : (Library.load referrer name l).1 with
    | ok t => exact .ok ⟨rfl, h.template hl hresult⟩
    | error halt =>
      cases halt with
      | error e => exact .error (.error ⟨rfl, h.error hl hresult⟩)
      | exhausted => exact .error .exhausted

end Laws

/-!
## Values within a vocabulary

No operator, no step into a value and no built-in filter leads from values within a vocabulary to
one that is not. Each of these is the law of a likeness, read for two equal values.
-/

section Values

variable {V : Vocabulary} {v w u : Value}

/-- Values can be compared within a vocabulary whatever the sets and the host are. -/
theorem valued_bare (V : Vocabulary) : (Likeness.within V fun _ => False).Valued := valued_within

theorem of_endAlike {ε ε' α : Type} {H : ε → ε' → Prop} {P : α → Prop} {x : Except ε α}
    {x' : Except ε' α} {a : α} (h : EndAlike H (EqualIn P) x x') (hx : x = .ok a) : P a := by
  subst hx
  cases h with
  | ok h => exact h.2

theorem within_literal (l : Literal) : l.value.Within V := (alike_literal (valued_bare V) l).2

theorem within_applyUnary {op : UnaryOp} (hv : v.Within V) (h : v.applyUnary op = .ok w) :
    w.Within V := of_endAlike (alike_applyUnary (valued_bare V) op ⟨rfl, hv⟩) h

theorem within_applyBinary {op : BinaryOp} (hv : v.Within V) (hw : w.Within V)
    (h : v.applyBinary op w = .ok u) : u.Within V :=
  of_endAlike (alike_applyBinary (valued_bare V) op ⟨rfl, hv⟩ ⟨rfl, hw⟩) h

theorem within_member {name : String} (hv : v.Within V) (h : v.member name = .ok w) : w.Within V :=
  of_endAlike (alike_member (valued_bare V) name ⟨rfl, hv⟩) h

theorem within_item {n : Int} (hv : v.Within V) (h : v.item n = .ok w) : w.Within V :=
  of_endAlike (alike_item (valued_bare V) n ⟨rfl, hv⟩) h

theorem within_subscript (hv : v.Within V) (hw : w.Within V) (h : v.subscript w = .ok u) :
    u.Within V := of_endAlike (alike_subscript (valued_bare V) ⟨rfl, hv⟩ ⟨rfl, hw⟩) h

theorem within_apply {f : Filter} {arg : Option Value} (hv : v.Within V)
    (harg : ∀ a ∈ arg, a.Within V) (h : f.apply v arg = .ok w) : w.Within V :=
  of_endAlike (alike_apply (valued_bare V) f ⟨rfl, hv⟩ (rel_equalIn_iff.mpr ⟨rfl, harg⟩)) h

theorem within_visits {sorter : Sorter} {two reversed sorted : Bool} {visits : List (Value × Value)}
    (hv : v.Within V) (h : Loop.visits sorter v two reversed sorted = some visits) :
    ∀ visit ∈ visits, visit.1.Within V ∧ visit.2.Within V := by
  have hrel := rel_visits (valued_bare V) sorter ⟨rfl, hv⟩ two reversed sorted
  rw [h] at hrel
  cases hrel with
  | some hvisits =>
    exact fun visit hvisit =>
      have h := List.forall₂_same.mp hvisits visit hvisit
      ⟨h.1.2, h.2.2⟩

theorem within_counters (i total : Nat) (hv : v.Within V) :
    (Loop.counters i total v).Within V :=
  (alike_counters (valued_bare V) i total ⟨rfl, hv⟩).2

end Values

end Stencil
