import Stencil.Proofs.Alike.Exec
import Stencil.Proofs.Table

/-!
# Renders of the same templates

The strictest likeness is equality. By it, renders of the same template agree in all states between
which no step can tell, as long as functions of the host cannot tell between them either: states
that differ in what was written so far, and in the blocks around the innermost one.

Templates may also come from two sets. If these sets go on giving templates that are alike, then
templates that are alike show the same (`execute_across`).
-/

namespace Stencil

open Render

/-- Two states between which no step of a render can tell: they differ at most in what was written,
and in which bodies the blocks around the innermost one override. -/
structure State.Same (s s' : State) : Prop where
  set : s.set = s'.set
  context : s.context = s'.context
  globals : s.globals = s'.globals
  scopes : s.scopes = s'.scopes
  autoescape : s.autoescape = s'.autoescape
  chain : s.chain = s'.chain
  overridden : s.blocks.head?.getD [] = s'.blocks.head?.getD []
  depth : s.depth = s'.depth
  recursionLimit : s.recursionLimit = s'.recursionLimit

/-- Functions of the host do the same in states between which no step can tell. They write nothing,
and they leave the blocks as they were. -/
structure Host.Modest (host : Host) : Prop where
  same : ∀ key data args s s', State.Same s s' →
    (host.function key data args s).1 = (host.function key data args s').1 ∧
      (host.function key data args s).2.Same (host.function key data args s').2
  rests : ∀ key data args s, State.Rests s (host.function key data args s).2

/-- The likeness by which all is equal. -/
def Likeness.same : Likeness where
  name _ := True
  position := Eq
  expr := Eq
  body := Eq
  callee := Eq
  template := Eq
  value := Eq
  error := Eq
  set := Eq
  scope := Eq
  context := Eq
  globals := Eq
  included _ _ _ := False
  extended _ _ _ _ := False

variable {host : Host}

/-! ## Trees -/

theorem forall₂_refl {α : Type} {R : α → α → Prop} (h : ∀ a, R a a) (l : List α) :
    List.Forall₂ R l l := List.forall₂_same.mpr fun a _ => h a

theorem rel_refl {α : Type} {R : α → α → Prop} (h : ∀ a, R a a) (o : Option α) :
    Option.Rel R o o := by
  cases o with
  | none => exact .none
  | some a => exact .some (h a)

theorem eq_of_rel {α : Type} {o o' : Option α} (h : Option.Rel Eq o o') : o = o' := by
  cases h with
  | none => rfl
  | some h => exact congrArg some h

theorem entry_same {α : Type} {R : α → α → Prop} (h : ∀ a, R a a) (e : String × α) :
    Likeness.same.entry R e e := ⟨rfl, trivial, h e.2⟩

theorem Segment.congruent_same (segment : Segment) :
    segment.Congruent .same segment := by
  cases segment with
  | attr name => exact .attr name
  | index n => exact .index n
  | subscript key => exact .subscript rfl
  | call args => exact .call (forall₂_refl (fun _ => rfl) args)

theorem FilterCall.congruent_same (f : FilterCall) : f.Congruent .same f := by
  obtain ⟨name, arg, p, f⟩ := f
  exact .mk name f (rel_refl (fun _ => rfl) arg) rfl

theorem Expr.congruent_same (e : Expr) : e.Congruent .same e := by
  cases e with
  | literal l => exact .literal l
  | array items => exact .array (forall₂_refl (fun _ => rfl) items)
  | path name segments p => exact .path trivial (forall₂_refl Segment.congruent_same segments) rfl
  | unary op e p => exact .unary op rfl rfl
  | binary op a b p => exact .binary op rfl rfl rfl
  | filtered e filters => exact .filtered rfl (forall₂_refl FilterCall.congruent_same filters)

theorem Target.congruent_same (base : String) (target : Target) :
    Target.Congruent .same base target target := by
  cases target with
  | linked t => exact .linked rfl
  | named e => exact .named rfl

theorem Parent.congruent_same (base : String) (parent : Parent) :
    Parent.Congruent .same base parent parent := by
  cases parent with
  | linked t => exact .linked rfl
  | named e p => exact .named rfl rfl

theorem Step.congruent_same (step : Step) : step.Congruent .same step := by
  cases step with
  | write text => exact .write text
  | run body => exact .run rfl
  | captured key body => exact .captured key rfl
  | shown key e => exact .shown key rfl

theorem Statement.congruent_same (statement : Statement) :
    statement.Congruent .same statement := by
  have hbody (body : Option Body) : Option.Rel Eq body body := rel_refl (fun _ => rfl) body
  have hexprs (es : List Expr) : List.Forall₂ Eq es es := forall₂_refl (fun _ => rfl) es
  have hbindings (bindings : List (String × Expr)) :=
    forall₂_refl (entry_same fun _ => rfl) bindings
  cases statement with
  | branch branches otherwise =>
    exact .branch (forall₂_refl (fun _ => ⟨rfl, rfl⟩) branches) (hbody otherwise)
  | compare lhs rhs negated body otherwise => exact .compare negated rfl rfl rfl (hbody otherwise)
  | loop first second source reversed sorted body empty =>
    exact .loop reversed sorted trivial (fun _ _ => trivial) trivial rfl rfl (hbody empty)
  | cycle values target silent =>
    exact .cycle silent trivial (hexprs values) fun _ _ => trivial
  | firstOf values => exact .firstOf (hexprs values)
  | block name body => exact .block name rfl
  | includes target base bindings only ifExists =>
    exact .includes only ifExists (target.congruent_same base) (hbindings bindings)
  | imports macros => exact .imports (forall₂_refl (entry_same fun _ => rfl) macros)
  | bind bindings body => exact .bind (hbindings bindings) rfl
  | assign name e => exact .assign trivial rfl
  | define m => exact .define trivial rfl
  | escaping enabled body => exact .escaping enabled rfl
  | filtering filters body =>
    exact .filtering (forall₂_refl FilterCall.congruent_same filters) rfl
  | spaceless body => exact .spaceless rfl
  | nothing => exact .nothing
  | now format fake => exact .now format fake
  | write text => exact .write text
  | ratio value most width target => exact .ratio rfl rfl rfl fun _ _ => trivial
  | custom steps => exact .custom (forall₂_refl Step.congruent_same steps)

theorem Node.congruent_same (n : Node) : n.Congruent .same n := by
  cases n with
  | text s => exact .text s
  | output p e => exact .output rfl rfl
  | tag name p statement => exact .tag name rfl statement.congruent_same

theorem Macro.congruent_same (m : Macro) : m.Congruent .same m where
  name := rfl
  params := forall₂_refl (entry_same (rel_refl fun _ => rfl)) m.params
  body := rfl

theorem Template.congruent_same (t : Template) : t.Congruent .same t where
  name := rfl
  nodes := rfl
  parent := rel_refl (Parent.congruent_same t.name) t.parent
  block name := rel_refl (fun _ => rfl) (t.block? name)

/-! ## Values -/

theorem forall₂_field_same {entries entries' : List (String × Value)} :
    List.Forall₂ Likeness.same.field entries entries' ↔ entries = entries' := by
  have hfield : Likeness.same.field = Eq := by
    funext e e'
    exact propext Prod.ext_iff.symm
  rw [hfield, List.forall₂_eq_eq_eq]

theorem Value.congruent_same {v v' : Value} :
    v = v' ↔ v.Congruent .same v' := by
  constructor
  · rintro rfl
    cases v with
    | nil => exact .nil
    | bool b => exact .bool b
    | int n => exact .int n
    | float x => exact .float x
    | str s => exact .str s
    | safe s => exact .safe s
    | seq items => exact .seq (forall₂_refl (fun _ => rfl) items)
    | map entries => exact .map (forall₂_field_same.mpr rfl)
    | record r =>
      exact .record ⟨rfl, forall₂_field_same.mpr rfl, forall₂_refl (fun _ => rfl) r.items, rfl,
        rel_refl (forall₂_refl fun _ => rfl) r.visits, rfl, rfl⟩
    | func f =>
      refine .func ⟨rfl, rfl, rfl, rfl, ?_⟩
      cases f.callback with
      | body m => exact .body rfl
      | super => exact .super
      | host key data => exact .host key rfl
  · intro h
    cases h with
    | seq hitems => exact congrArg Value.seq (List.forall₂_eq_eq_eq ▸ hitems)
    | map hentries => exact congrArg Value.map (forall₂_field_same.mp hentries)
    | @record r r' hr =>
      obtain ⟨kind, attrs, items, methods, visits, size, shown⟩ := r
      obtain ⟨kind', attrs', items', methods', visits', size', shown'⟩ := r'
      obtain ⟨rfl, hattrs, hitems, rfl, hvisits, rfl, rfl⟩ := hr
      dsimp only at hattrs hitems hvisits
      obtain rfl := forall₂_field_same.mp hattrs
      obtain rfl : items = items' := List.forall₂_eq_eq_eq ▸ hitems
      obtain rfl : visits = visits' := by
        cases hvisits with
        | none => rfl
        | some h => exact congrArg some (List.forall₂_eq_eq_eq ▸ h)
      rfl
    | @func f f' hf =>
      obtain ⟨name, params, optional, variadic, callback⟩ := f
      obtain ⟨name', params', optional', variadic', callback'⟩ := f'
      obtain ⟨rfl, rfl, rfl, rfl, hcallback⟩ := hf
      dsimp only at hcallback
      cases hcallback with
      | body hm =>
        obtain rfl := hm
        rfl
      | super => rfl
      | host key hdata =>
        obtain rfl := hdata
        rfl
    | _ => rfl

/-! ## States -/

theorem alike_same {s s' : State} : s.Alike .same s' ↔ s.Same s' := by
  constructor
  · intro h
    exact ⟨h.set, h.context, h.globals, List.forall₂_eq_eq_eq ▸ h.scopes, h.autoescape,
      List.forall₂_eq_eq_eq ▸ h.chain, List.forall₂_eq_eq_eq ▸ h.overridden, h.depth,
      h.recursionLimit⟩
  · intro h
    exact ⟨h.set, h.context, h.globals,
      h.scopes ▸ forall₂_refl (fun _ => rfl) _, h.autoescape,
      h.chain ▸ forall₂_refl (fun _ => rfl) _, h.overridden ▸ forall₂_refl (fun _ => rfl) _,
      h.depth, h.recursionLimit⟩

theorem State.Same.refl (s : State) : s.Same s := ⟨rfl, rfl, rfl, rfl, rfl, rfl, rfl, rfl, rfl⟩

/-! ## The laws -/

theorem endAlike_same {ε α : Type} (x : Except ε α) : EndAlike Eq Eq x x := by
  cases x with
  | ok a => exact .ok rfl
  | error e => exact .error rfl

theorem eq_of_endAlike {ε α : Type} {x x' : Except ε α} (h : EndAlike Eq Eq x x') : x = x' := by
  cases h with
  | ok h => exact congrArg Except.ok h
  | error h => exact congrArg Except.error h

theorem halt_same (h : Halt) : Halt.Alike Eq h h := by
  cases h with
  | error e => exact .error rfl
  | exhausted => exact .exhausted

theorem eq_of_halted_alike {α : Type} {x x' : Except Halt α}
    (h : EndAlike (Halt.Alike Eq) Eq x x') :
    x = x' := by
  cases h with
  | ok h => exact congrArg Except.ok h
  | error h =>
    cases h with
    | error h => exact congrArg (fun e => Except.error (Halt.error e)) h
    | exhausted => rfl

/-- Equality is a likeness that no step can tell from equality. -/
theorem lawful_same (hhost : host.Modest) : Likeness.same.Lawful host where
  run _ := rfl
  located := by
    rintro p _ e _ rfl rfl
    rfl
  inFilter := by
    rintro p _ e _ name rfl rfl
    rfl
  isLoader h := congrArg Error.isLoader h
  explain fault h := congrArg (explain fault) h
  expr := by
    rintro e _ rfl
    exact e.congruent_same
  literal _ := rfl
  body := by
    rintro nodes _ rfl
    exact forall₂_refl Node.congruent_same nodes
  callee := by
    rintro m _ rfl
    exact m.congruent_same
  template := by
    rintro t _ rfl
    exact t.congruent_same
  value := Value.congruent_same
  lookup := by
    rintro b _ name rfl -
    exact rel_refl (fun _ => rfl) (b.get? name)
  context := by
    rintro b _ name rfl -
    exact rel_refl (fun _ => rfl) (b.get? name)
  globals := by
    rintro b _ name rfl -
    exact rel_refl (fun _ => rfl) (b.get? name)
  empty := rfl
  insert := by
    rintro b _ name v _ rfl - rfl
    rfl
  base := rfl
  isNone h := congrArg Option.isNone h
  load := by
    rintro l _ referrer name ⟨⟩
    refine ⟨?_, rfl⟩
    cases (Library.load referrer name l).1 with
    | ok t => exact .ok rfl
    | error h => exact .error (halt_same h)
  included h := h.elim
  extended _ h := h.elim
  filter := by
    rintro v _ arg arg' key rfl harg
    obtain rfl := eq_of_rel harg
    exact endAlike_same _
  method := by
    rintro args args' key hargs
    obtain rfl : args = args' := List.forall₂_eq_eq_eq ▸ hargs
    exact endAlike_same _
  captured := by
    rintro r r' key hr
    obtain rfl := eq_of_endAlike hr
    exact endAlike_same _
  shown := by
    rintro v _ key rfl
    exact endAlike_same _
  function := by
    rintro data _ args args' key rfl hargs s s' hs
    obtain rfl : args = args' := List.forall₂_eq_eq_eq ▸ hargs
    obtain ⟨hresult, hleft⟩ := hhost.same key data args s s' (alike_same.mp hs)
    have hrests := hhost.rests key data args s
    have hrests' := hhost.rests key data args s'
    have hstate : State.Alike .same (host.function key data args s).2
        (host.function key data args s').2 := alike_same.mpr hleft
    unfold callHost
    generalize host.function key data args s = e at hresult hstate hrests ⊢
    generalize host.function key data args s' = e' at hresult hstate hrests' ⊢
    obtain ⟨x, t⟩ := e
    obtain ⟨x', t'⟩ := e'
    obtain rfl : x = x' := hresult
    cases x with
    | ok v => exact ⟨.ok rfl, hstate, hrests, hrests'⟩
    | error e => exact ⟨.error (.error rfl), hstate, hrests, hrests'⟩

/-- A host that adds nothing is modest. -/
theorem modest_bare (now : Calendar.Moment) : (Host.bare now).Modest where
  same _ _ _ _ _ hs := ⟨rfl, hs⟩
  rests _ _ _ s := .refl s

/-- A host that adds nothing does not look into what it is given. -/
theorem uniform_bare (now : Calendar.Moment) : (Host.bare now).Uniform := fun _ hL =>
  { filter := fun _ hv _ => .ok hv
    method := fun _ _ => .ok (hL.value.mpr .nil)
    captured := fun _ hr => hr
    shown := fun _ hv => .ok (text_eq hL.toValued _ _ hv)
    function := fun _ _ _ s s' hs => ⟨.ok (hL.value.mpr .nil), hs, .refl s, .refl s'⟩ }

/-! ## Renders from two sets -/

namespace Likeness

/-- The trees that are alike. -/
def trees (L : Likeness) : TreeLikeness := ⟨L.expr, L.body, L.callee, L.template, L.value⟩

/-- All trees that are made in the same way are alike in the widest likeness of the same leaves. -/
theorem Unfolds.le_widest {L M : Likeness} (hL : L.Unfolds) (hname : ∀ n, L.name n → M.name n)
    (hposition : ∀ p p', L.position p p' → M.position p p')
    (hincluded : ∀ base t e, L.included base t e → M.included base t e)
    (hextended : ∀ base t e p, L.extended base t e p → M.extended base t e p) :
    L.Le M.widest := by
  have hle : L.Le (M.withTrees L.trees) :=
    ⟨⟨hname, hposition, fun _ _ => id⟩, fun _ _ => id, fun _ _ => id, fun _ _ => id, fun _ _ => id,
      hincluded, hextended⟩
  have h : (M.withTrees L.trees).Unfolds :=
    ⟨fun he => (hL.expr he).mono hle.toLeExpr,
      fun hn => (hL.body hn).imp fun _ _ => Node.Congruent.mono hle,
      fun hm => (hL.callee hm).mono hle, fun ht => (hL.template ht).mono hle,
      fun hv => (hL.value hv).mono hle⟩
  have hwidest := withTrees_le_widest h
  exact ⟨⟨hname, hposition, hwidest.expr⟩, hwidest.body, hwidest.callee, hwidest.template,
    hwidest.value, hincluded, hextended⟩

theorem same_unfolds : Likeness.same.Unfolds where
  expr := by
    rintro e _ rfl
    exact e.congruent_same
  body := by
    rintro nodes _ rfl
    exact forall₂_refl Node.congruent_same nodes
  callee := by
    rintro m _ rfl
    exact m.congruent_same
  template := by
    rintro t _ rfl
    exact t.congruent_same
  value := Value.congruent_same.mp

/-- A likeness by which leaves that are equal are alike, and no template is named where another one
is linked. -/
structure Reflexive (L : Likeness) : Prop where
  name : ∀ n, L.name n
  position : ∀ p, L.position p p
  error : ∀ e, L.error e e
  located : ∀ {p p' e e'}, L.position p p' → L.error e e' → L.error (e.located p) (e'.located p')
  inFilter : ∀ {p p' e e'} (name), L.position p p' → L.error e e' →
    L.error (e.inFilter name p) (e'.inFilter name p')
  isLoader : ∀ {e e'}, L.error e e' → e.isLoader = e'.isLoader
  explain : ∀ {e e'} (fault), L.error e e' → L.error (explain fault e) (explain fault e')
  included : ∀ {base t e}, ¬L.included base t e
  extended : ∀ {base t e p}, ¬L.extended base t e p

/-- What counts as alike in renders from two sets that `S` relates: trees that can be taken apart in
the same way, and data with the same names for values that are alike. -/
def across (L : Likeness) (S : Library → Library → Prop) : Likeness :=
  { L.widest with
    set := Option.Rel S
    scope := fun b b' => ∀ n, Option.Rel L.widest.value (b.get? n) (b'.get? n)
    context := fun b b' => ∀ n, Option.Rel L.widest.value (b.get? n) (b'.get? n)
    globals := fun b b' => ∀ n, Option.Rel L.widest.value (b.get? n) (b'.get? n) }

end Likeness

section Across

variable {L : Likeness} {S : Library → Library → Prop} (hL : L.Reflexive)
  (hload : ∀ {l l'} referrer name, S l l' →
    EndAlike (Halt.Alike L.error)
        (fun t t' => L.widest.template t t' ∧ t.options = t'.options)
        (Library.load referrer name l).1 (Library.load referrer name l').1 ∧
      S (Library.load referrer name l).2 (Library.load referrer name l').2)
include hL

theorem same_le_widest : Likeness.same.Le L.widest := by
  refine Likeness.same_unfolds.le_widest (fun n _ => hL.name n) ?_ (fun _ _ _ => False.elim)
    fun _ _ _ _ => False.elim
  rintro p _ rfl
  exact hL.position p

theorem rel_get?_across (b : Bindings) (n : String) :
    Option.Rel L.widest.value (b.get? n) (b.get? n) :=
  rel_refl (fun v => (same_le_widest hL).value v v rfl) _

omit hL in
theorem insert_across {b b' : Bindings} {name : String} {v v' : Value}
    (hb : ∀ n, Option.Rel L.widest.value (b.get? n) (b'.get? n)) (hv : L.widest.value v v')
    (n : String) :
    Option.Rel L.widest.value ((b.insert name v).get? n) ((b'.insert name v').get? n) := by
  by_cases heq : n = name
  · rw [heq, Table.get?_insert_self, Table.get?_insert_self]
    exact .some hv
  · rw [Table.get?_insert_of_ne b heq, Table.get?_insert_of_ne b' heq]
    exact hb n

include hload in
theorem coherent_across : (L.across S).Coherent := by
  have hunfolds := L.widest_unfolds
  have hfolds := L.widest_folds
  -- The two likenesses differ in what they say of states, and trees have nothing to do with these.
  have hle : L.widest.Le (L.across S) :=
    ⟨⟨fun _ => id, fun _ _ => id, fun _ _ => id⟩, fun _ _ => id, fun _ _ => id, fun _ _ => id,
      fun _ _ => id, fun _ _ _ => id, fun _ _ _ _ => id⟩
  have hge : (L.across S).Le L.widest :=
    ⟨⟨fun _ => id, fun _ _ => id, fun _ _ => id⟩, fun _ _ => id, fun _ _ => id, fun _ _ => id,
      fun _ _ => id, fun _ _ _ => id, fun _ _ _ _ => id⟩
  exact
    { run := fun _ => hL.error _
      located := hL.located
      inFilter := hL.inFilter
      isLoader := hL.isLoader
      explain := hL.explain
      expr := fun he => (hunfolds.expr he).mono hle.toLeExpr
      literal := fun literal => hfolds.expr (.literal literal)
      body := fun hn => (hunfolds.body hn).imp fun _ _ => Node.Congruent.mono hle
      callee := fun hm => (hunfolds.callee hm).mono hle
      template := fun ht => (hunfolds.template ht).mono hle
      value := ⟨fun hv => (hunfolds.value hv).mono hle, fun hv => hfolds.value (hv.mono hge)⟩
      lookup := fun hb _ => hb _
      context := fun hb _ => hb _
      globals := fun hb _ => hb _
      empty := fun _ => .none
      insert := fun hb _ hv => insert_across hb hv
      base := rel_get?_across hL _
      isNone := by
        rintro _ _ (_ | _) <;> rfl
      load := by
        rintro _ _ referrer name (⟨hl⟩ | _)
        obtain ⟨hresult, hleft⟩ := hload referrer name hl
        exact ⟨hresult.imp fun _ _ ht => ht.1, .some hleft⟩ }

include hload in
theorem lawful_across {host : Host} (hhost : host.Uniform) : (L.across S).Lawful host where
  toCoherent := coherent_across hL hload
  toTolerates := hhost _ (coherent_across hL hload)
  included h := (hL.included h).elim
  extended _ h := (hL.extended h).elim

include hload in
/-- Templates that are alike show the same, whatever the data of the caller, and renders that fail
do so with errors that are alike. -/
theorem execute_across {host : Host} (hhost : host.Uniform) {t t' : Template}
    (ht : L.widest.template t t') (hoptions : t.options = t'.options) {l l' : Library} (hl : S l l')
    (hglobals : l.globals = l'.globals) (context : Bindings) (out : Sink) :
    EndAlike (Halt.Alike L.error) Eq (t.execute host (some l) context out).1
        (t'.execute host (some l') context out).1 ∧
      (t.execute host (some l) context out).2.out =
        (t'.execute host (some l') context out).2.out := by
  have hlawful := lawful_across hL hload hhost
  have hstart : (State.start (some l) context t.options out).Alike (L.across S)
      (.start (some l') context t'.options out) :=
    { set := .some hl
      context := rel_get?_across hL context
      globals := by
        show ∀ n, Option.Rel _ (l.globals.get? n) (l'.globals.get? n)
        rw [← hglobals]
        exact rel_get?_across hL l.globals
      scopes := .cons (rel_get?_across hL _) .nil
      autoescape := congrArg RenderOptions.autoescape hoptions
      chain := .nil
      overridden := .nil
      depth := rfl
      recursionLimit := congrArg RenderOptions.recursionLimit hoptions }
  have hagrees := agrees_render hlawful (agree_upTo hlawful jumpDepth) ht
  have houtcome := hagrees.outcome (.same out.failure) _ _ hstart ⟨rfl, rfl⟩
  unfold Template.execute
  cases checkNames context with
  | error e => exact ⟨.error (.error (hL.error e)), rfl⟩
  | ok =>
    dsimp only
    generalize t.render (.upTo jumpDepth) host _ = r at houtcome ⊢
    generalize t'.render (.upTo jumpDepth) host _ = r' at houtcome ⊢
    cases houtcome with
    | together hend _ _ _ hout => exact ⟨hend.imp fun _ _ _ => rfl, hout.1⟩
    | refused hout => exact ⟨.error (.error (hL.error _)), hout⟩
    | parted h => exact h.elim

end Across

end Stencil
