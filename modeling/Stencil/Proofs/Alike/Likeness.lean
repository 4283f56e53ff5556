import Mathlib.Data.List.Forall2
import Stencil.Render.Exec

/-!
# Likenesses of two renders

Two renders can be compared step by step: their templates, their values and their states are alike
as long as they do the same. A likeness says what counts as alike. Trees and values that are alike
are made in the same way of parts that are alike; beyond that a linked template may be alike to a
name that leads to it during the render. Whether the names, positions and errors of the two must be
equal is up to the likeness.
-/

namespace Stencil

section Likenesses

/-- Both computations gave results that `A` relates, or both halted for reasons that `H` relates. -/
inductive EndAlike {ε ε' α α' : Type} (H : ε → ε' → Prop) (A : α → α' → Prop) :
    Except ε α → Except ε' α' → Prop where
  | ok {a a'} : A a a' → EndAlike H A (.ok a) (.ok a')
  | error {h h'} : H h h' → EndAlike H A (.error h) (.error h')

/-- Both computations were halted by errors that `E` relates, or both for the same reason without
one. -/
inductive Halt.Alike (E : Error → Error → Prop) : Halt → Halt → Prop where
  | error {e e'} : E e e' → Halt.Alike E (.error e) (.error e')
  | exhausted {why : Stop} : Halt.Alike E (@Halt.exhausted why) (@Halt.exhausted why)

/-- What counts as alike in two renders. -/
structure Likeness where
  /-- The names that mean the same in both renders. -/
  name : String → Prop
  position : Position → Position → Prop
  expr : Expr → Expr → Prop
  body : Body → Body → Prop
  callee : Macro → Macro → Prop
  template : Template → Template → Prop
  value : Value → Value → Prop
  error : Error → Error → Prop
  /-- The sets of the two renders, unless they are gone. -/
  set : Option Library → Option Library → Prop
  scope : Bindings → Bindings → Prop
  context : Bindings → Bindings → Prop
  globals : Bindings → Bindings → Prop
  /-- A template that an include of `base` is linked to, and an expression that names it. -/
  included : (base : String) → Template → Expr → Prop
  /-- A template that `base` extends, and an expression that names it. -/
  extended : (base : String) → Template → Expr → Position → Prop

/-- Entries under one name that means the same in both renders. -/
def Likeness.entry {α α' : Type} (L : Likeness) (A : α → α' → Prop) (e : String × α)
    (e' : String × α') : Prop := e.1 = e'.1 ∧ L.name e.1 ∧ A e.2 e'.2

variable (L : Likeness)

/-! ## Expressions -/

/-- Segments made in the same way of parts that are alike. -/
inductive Segment.Congruent : Segment → Segment → Prop where
  | attr (name) : Segment.Congruent (.attr name) (.attr name)
  | index (n) : Segment.Congruent (.index n) (.index n)
  | subscript {key key'} : L.expr key key' → Segment.Congruent (.subscript key) (.subscript key')
  | call {args args'} : List.Forall₂ L.expr args args' →
    Segment.Congruent (.call args) (.call args')

/-- Filters made in the same way of parts that are alike. -/
inductive FilterCall.Congruent : FilterCall → FilterCall → Prop where
  | mk {arg arg' p p'} (name f) : Option.Rel L.expr arg arg' → L.position p p' →
    FilterCall.Congruent (.mk name arg p f) (.mk name arg' p' f)

/-- Expressions made in the same way of parts that are alike. -/
inductive Expr.Congruent : Expr → Expr → Prop where
  | literal (l) : Expr.Congruent (.literal l) (.literal l)
  | array {items items'} : List.Forall₂ L.expr items items' →
    Expr.Congruent (.array items) (.array items')
  | path {name segments segments' p p'} : L.name name →
    List.Forall₂ (Segment.Congruent L) segments segments' → L.position p p' →
    Expr.Congruent (.path name segments p) (.path name segments' p')
  | unary {e e' p p'} (op) : L.expr e e' → L.position p p' →
    Expr.Congruent (.unary op e p) (.unary op e' p')
  | binary {a a' b b' p p'} (op) : L.expr a a' → L.expr b b' → L.position p p' →
    Expr.Congruent (.binary op a b p) (.binary op a' b' p')
  | filtered {e e' filters filters'} : L.expr e e' →
    List.Forall₂ (FilterCall.Congruent L) filters filters' →
    Expr.Congruent (.filtered e filters) (.filtered e' filters')

/-! ## Nodes -/

/-- Targets of an include of `base` that are alike; only the first one may be linked. -/
inductive Target.Congruent (base : String) : Target → Target → Prop where
  | linked {t t'} : L.template t t' → Target.Congruent base (.linked t) (.linked t')
  | named {e e'} : L.expr e e' → Target.Congruent base (.named e) (.named e')
  | loose {t e} : L.included base t e → Target.Congruent base (.linked t) (.named e)

/-- Parents of `base` that are alike; only the first one may be linked. -/
inductive Parent.Congruent (base : String) : Parent → Parent → Prop where
  | linked {t t'} : L.template t t' → Parent.Congruent base (.linked t) (.linked t')
  | named {e e' p p'} : L.expr e e' → L.position p p' →
    Parent.Congruent base (.named e p) (.named e' p')
  | loose {t e p} : L.extended base t e p → Parent.Congruent base (.linked t) (.named e p)

/-- Steps made in the same way of parts that are alike. -/
inductive Step.Congruent : Step → Step → Prop where
  | write (text) : Step.Congruent (.write text) (.write text)
  | run {body body'} : L.body body body' → Step.Congruent (.run body) (.run body')
  | captured {body body'} (key) : L.body body body' →
    Step.Congruent (.captured key body) (.captured key body')
  | shown {e e'} (key) : L.expr e e' → Step.Congruent (.shown key e) (.shown key e')

/-- Statements made in the same way of parts that are alike. -/
inductive Statement.Congruent : Statement → Statement → Prop where
  | branch {branches branches' otherwise otherwise'} :
    List.Forall₂ (fun b b' => L.expr b.1 b'.1 ∧ L.body b.2 b'.2) branches branches' →
    Option.Rel L.body otherwise otherwise' →
    Statement.Congruent (.branch branches otherwise) (.branch branches' otherwise')
  | compare {lhs lhs' rhs rhs' body body' otherwise otherwise'} (negated) : L.expr lhs lhs' →
    L.expr rhs rhs' → L.body body body' → Option.Rel L.body otherwise otherwise' →
    Statement.Congruent (.compare lhs rhs negated body otherwise)
      (.compare lhs' rhs' negated body' otherwise')
  | loop {first second source source' body body' empty empty'} (reversed sorted) : L.name first →
    (∀ name ∈ second, L.name name) → L.name "forloop" → L.expr source source' →
    L.body body body' → Option.Rel L.body empty empty' →
    Statement.Congruent (.loop first second source reversed sorted body empty)
      (.loop first second source' reversed sorted body' empty')
  | cycle {values values' target} (silent) : L.name "forloop" → List.Forall₂ L.expr values values' →
    (∀ name ∈ target, L.name name) →
    Statement.Congruent (.cycle values target silent) (.cycle values' target silent)
  | firstOf {values values'} : List.Forall₂ L.expr values values' →
    Statement.Congruent (.firstOf values) (.firstOf values')
  | block {body body'} (name) : L.body body body' →
    Statement.Congruent (.block name body) (.block name body')
  | includes {target target' base bindings bindings'} (only ifExists) :
    Target.Congruent L base target target' → List.Forall₂ (L.entry L.expr) bindings bindings' →
    Statement.Congruent (.includes target base bindings only ifExists)
      (.includes target' base bindings' only ifExists)
  | imports {macros macros'} : List.Forall₂ (L.entry L.callee) macros macros' →
    Statement.Congruent (.imports macros) (.imports macros')
  | bind {bindings bindings' body body'} : List.Forall₂ (L.entry L.expr) bindings bindings' →
    L.body body body' → Statement.Congruent (.bind bindings body) (.bind bindings' body')
  | assign {name e e'} : L.name name → L.expr e e' →
    Statement.Congruent (.assign name e) (.assign name e')
  | define {m m'} : L.name m.name → L.callee m m' → Statement.Congruent (.define m) (.define m')
  | escaping {body body'} (enabled) : L.body body body' →
    Statement.Congruent (.escaping enabled body) (.escaping enabled body')
  | filtering {filters filters' body body'} :
    List.Forall₂ (FilterCall.Congruent L) filters filters' → L.body body body' →
    Statement.Congruent (.filtering filters body) (.filtering filters' body')
  | spaceless {body body'} : L.body body body' →
    Statement.Congruent (.spaceless body) (.spaceless body')
  | nothing : Statement.Congruent .nothing .nothing
  | now (format fake) : Statement.Congruent (.now format fake) (.now format fake)
  | write (text) : Statement.Congruent (.write text) (.write text)
  | ratio {value value' most most' width width' target} : L.expr value value' → L.expr most most' →
    L.expr width width' → (∀ name ∈ target, L.name name) →
    Statement.Congruent (.ratio value most width target) (.ratio value' most' width' target)
  | custom {steps steps'} : List.Forall₂ (Step.Congruent L) steps steps' →
    Statement.Congruent (.custom steps) (.custom steps')

/-- Nodes made in the same way of parts that are alike. -/
inductive Node.Congruent : Node → Node → Prop where
  | text (s) : Node.Congruent (.text s) (.text s)
  | output {e e' p p'} : L.position p p' → L.expr e e' →
    Node.Congruent (.output p e) (.output p' e')
  | tag {p p' statement statement'} (name) : L.position p p' →
    Statement.Congruent L statement statement' →
    Node.Congruent (.tag name p statement) (.tag name p' statement')

/-- Macros made in the same way of parts that are alike. -/
structure Macro.Congruent (m m' : Macro) : Prop where
  name : m.name = m'.name
  params : List.Forall₂ (L.entry (Option.Rel L.expr)) m.params m'.params
  body : L.body m.body m'.body

/-- Templates of one name made in the same way of parts that are alike. -/
structure Template.Congruent (t t' : Template) : Prop where
  name : t.name = t'.name
  nodes : L.body t.nodes t'.nodes
  parent : Option.Rel (Parent.Congruent L t.name) t.parent t'.parent
  block : ∀ name, Option.Rel L.body (t.block? name) (t'.block? name)

/-! ## Values -/

/-- Callbacks made in the same way of parts that are alike. -/
inductive Callback.Congruent : Callback → Callback → Prop where
  | body {m m'} : L.callee m m' → Callback.Congruent (.body m) (.body m')
  | super : Callback.Congruent .super .super
  | host {data data'} (key) : L.value data data' →
    Callback.Congruent (.host key data) (.host key data')

/-- Functions of one signature made in the same way of parts that are alike. -/
structure Function.Congruent (f f' : Function) : Prop where
  name : f.name = f'.name
  params : f.params = f'.params
  optional : f.optional = f'.optional
  variadic : f.variadic = f'.variadic
  callback : Callback.Congruent L f.callback f'.callback

/-- Fields of one name whose values are alike. -/
def Likeness.field (e e' : String × Value) : Prop := e.1 = e'.1 ∧ L.value e.2 e'.2

/-- Records made in the same way of parts that are alike. -/
structure HostRecord.Congruent (r r' : HostRecord) : Prop where
  kind : r.kind = r'.kind
  attrs : List.Forall₂ L.field r.attrs r'.attrs
  items : List.Forall₂ L.value r.items r'.items
  methods : r.methods = r'.methods
  visits : Option.Rel (List.Forall₂ L.value) r.visits r'.visits
  size : r.size = r'.size
  shown : r.shown = r'.shown

/-- Values made in the same way of parts that are alike. -/
inductive Value.Congruent : Value → Value → Prop where
  | nil : Value.Congruent .nil .nil
  | bool (b) : Value.Congruent (.bool b) (.bool b)
  | int (n) : Value.Congruent (.int n) (.int n)
  | float (x) : Value.Congruent (.float x) (.float x)
  | str (s) : Value.Congruent (.str s) (.str s)
  | safe (s) : Value.Congruent (.safe s) (.safe s)
  | seq {items items'} : List.Forall₂ L.value items items' →
    Value.Congruent (.seq items) (.seq items')
  | map {entries entries'} : List.Forall₂ L.field entries entries' →
    Value.Congruent (.map entries) (.map entries')
  | record {r r'} : r.Congruent L r' → Value.Congruent (.record r) (.record r')
  | func {f f'} : f.Congruent L f' → Value.Congruent (.func f) (.func f')

/-! ## States -/

/-- States that renders which do the same can be in. What they wrote is left aside, and of the
blocks that are rendered only the innermost one counts. -/
structure State.Alike (s s' : State) : Prop where
  set : L.set s.set s'.set
  context : L.context s.context s'.context
  globals : L.globals s.globals s'.globals
  scopes : List.Forall₂ L.scope s.scopes s'.scopes
  autoescape : s.autoescape = s'.autoescape
  chain : List.Forall₂ L.template s.chain s'.chain
  overridden : List.Forall₂ L.body (s.blocks.head?.getD []) (s'.blocks.head?.getD [])
  depth : s.depth = s'.depth
  recursionLimit : s.recursionLimit = s'.recursionLimit

/-- A step that leaves the output alone, and that leaves the blocks as they were. -/
structure State.Rests (s t : State) : Prop where
  blocks : t.blocks = s.blocks
  out : t.out = s.out

namespace Render

/-- In states that are alike, `r` and `r'` end alike, leave states that are alike, and write
nothing. -/
def Echoes {α α' : Type} (host : Host) (r : Render α) (r' : Render α') (A : α → α' → Prop) : Prop :=
  ∀ s s', State.Alike L s s' →
    EndAlike (Halt.Alike L.error) A (r host s).1 (r' host s').1 ∧
      State.Alike L (r host s).2 (r' host s').2 ∧ s.Rests (r host s).2 ∧ s'.Rests (r' host s').2

end Render

/-! ## Laws -/

/-- The error of a filter: if it is not located yet, it gets the position and the name of the
filter. -/
def Error.inFilter (name : String) (p : Position) : Error → Error
  | .execution none fault cause => .execution (some p) (.inFilter name fault) cause
  | e => e

/-- A likeness by which values are alike that are made in the same way of parts that are alike. -/
structure Likeness.Valued : Prop where
  value : ∀ {v v'}, L.value v v' ↔ v.Congruent L v'

/-- A likeness that follows the way in which trees, values and states are made. -/
structure Likeness.Coherent : Prop extends L.Valued where
  run : ∀ fault, L.error (.run fault) (.run fault)
  located : ∀ {p p' e e'}, L.position p p' → L.error e e' → L.error (e.located p) (e'.located p')
  inFilter : ∀ {p p' e e'} (name), L.position p p' → L.error e e' →
    L.error (e.inFilter name p) (e'.inFilter name p')
  isLoader : ∀ {e e'}, L.error e e' → e.isLoader = e'.isLoader
  explain : ∀ {e e'} (fault), L.error e e' → L.error (explain fault e) (explain fault e')
  expr : ∀ {e e'}, L.expr e e' → e.Congruent L e'
  literal : ∀ l, L.expr (.literal l) (.literal l)
  body : ∀ {nodes nodes'}, L.body nodes nodes' → List.Forall₂ (Node.Congruent L) nodes nodes'
  callee : ∀ {m m'}, L.callee m m' → m.Congruent L m'
  template : ∀ {t t'}, L.template t t' → t.Congruent L t'
  lookup : ∀ {b b' name}, L.scope b b' → L.name name →
    Option.Rel L.value (b.get? name) (b'.get? name)
  context : ∀ {b b' name}, L.context b b' → L.name name →
    Option.Rel L.value (b.get? name) (b'.get? name)
  globals : ∀ {b b' name}, L.globals b b' → L.name name →
    Option.Rel L.value (b.get? name) (b'.get? name)
  empty : L.scope [] []
  insert : ∀ {b b' name v v'}, L.scope b b' → L.name name → L.value v v' →
    L.scope (b.insert name v) (b'.insert name v')
  base : L.scope State.baseScope State.baseScope
  isNone : ∀ {l l'}, L.set l l' → l.isNone = l'.isNone
  load : ∀ {l l'} (referrer name), L.set (some l) (some l') →
    EndAlike (Halt.Alike L.error) L.template (Library.load referrer name l).1
        (Library.load referrer name l').1 ∧
      L.set (some (Library.load referrer name l).2) (some (Library.load referrer name l').2)

/-- What the host makes of things that are alike is alike. -/
structure Likeness.Tolerates (host : Host) : Prop where
  filter : ∀ {v v' arg arg'} (key), L.value v v' → Option.Rel L.value arg arg' →
    EndAlike L.error L.value (host.filter key v arg) (host.filter key v' arg')
  method : ∀ {args args'} (key), List.Forall₂ L.value args args' →
    EndAlike L.error L.value (host.method key args) (host.method key args')
  captured : ∀ {r r'} (key), EndAlike L.error Eq r r' →
    EndAlike L.error Eq (host.captured key r) (host.captured key r')
  shown : ∀ {v v'} (key), L.value v v' →
    EndAlike L.error Eq (host.shown key v) (host.shown key v')
  function : ∀ {data data' args args'} (key), L.value data data' →
    List.Forall₂ L.value args args' →
    Render.Echoes L host (callHost key data args) (callHost key data' args') L.value

/-- A likeness that the steps of a render cannot tell from equality. -/
structure Likeness.Lawful (host : Host) : Prop extends L.Coherent, L.Tolerates host where
  included : ∀ {base t e}, L.included base t e → ∀ j ifExists,
    Render.Echoes L host (pure (some t)) ((Target.named e).find? j base ifExists)
      (Option.Rel L.template)
  extended : ∀ {t : Template} {u e p}, t.parent = some (.named e p) →
    L.extended t.name u e p → ∀ j,
      Render.Echoes L host (pure (some u)) (t.parent? j) (Option.Rel L.template)

/-- A host that does not look into what it is given. -/
def Host.Uniform (host : Host) : Prop := ∀ L : Likeness, L.Coherent → L.Tolerates host

end Likenesses

/-!
## The widest likeness of trees

What counts as alike in trees can be given by what counts as alike in their leaves: then trees are
alike if they can be taken apart in the same way for as long as one likes, into parts that are alike
(`Likeness.widest`). It is enough for that to be made in the same way of parts that are alike, so
trees are found to be alike while they are built.
-/

/-- What counts as alike in trees and in the values that are made of them. -/
structure TreeLikeness where
  expr : Expr → Expr → Prop
  body : Body → Body → Prop
  callee : Macro → Macro → Prop
  template : Template → Template → Prop
  value : Value → Value → Prop

namespace Likeness

/-- What is alike in expressions for `L` is alike for `M`. -/
structure LeExpr (L M : Likeness) : Prop where
  name : ∀ n, L.name n → M.name n
  position : ∀ p p', L.position p p' → M.position p p'
  expr : ∀ e e', L.expr e e' → M.expr e e'

/-- What is alike for `L` is alike for `M`. -/
structure Le (L M : Likeness) : Prop extends L.LeExpr M where
  body : ∀ nodes nodes', L.body nodes nodes' → M.body nodes nodes'
  callee : ∀ m m', L.callee m m' → M.callee m m'
  template : ∀ t t', L.template t t' → M.template t t'
  value : ∀ v v', L.value v v' → M.value v v'
  included : ∀ base t e, L.included base t e → M.included base t e
  extended : ∀ base t e p, L.extended base t e p → M.extended base t e p

/-- The likeness with another one of trees. -/
def withTrees (L : Likeness) (trees : TreeLikeness) : Likeness :=
  { L with
    expr := trees.expr, body := trees.body, callee := trees.callee
    template := trees.template, value := trees.value }

/-- Trees that are alike are made in the same way of parts that are alike. -/
structure Unfolds (L : Likeness) : Prop where
  expr : ∀ {e e'}, L.expr e e' → e.Congruent L e'
  body : ∀ {nodes nodes'}, L.body nodes nodes' → List.Forall₂ (Node.Congruent L) nodes nodes'
  callee : ∀ {m m'}, L.callee m m' → m.Congruent L m'
  template : ∀ {t t'}, L.template t t' → t.Congruent L t'
  value : ∀ {v v'}, L.value v v' → v.Congruent L v'

/-- Trees made in the same way of parts that are alike are alike. -/
structure Folds (L : Likeness) : Prop where
  expr : ∀ {e : Expr} {e'}, e.Congruent L e' → L.expr e e'
  body : ∀ {nodes nodes'}, List.Forall₂ (Node.Congruent L) nodes nodes' → L.body nodes nodes'
  callee : ∀ {m : Macro} {m'}, m.Congruent L m' → L.callee m m'
  template : ∀ {t : Template} {t'}, t.Congruent L t' → L.template t t'
  value : ∀ {v : Value} {v'}, v.Congruent L v' → L.value v v'

/-- Trees are alike as they are in any likeness in which such trees are made in the same way. -/
def widestTrees (L : Likeness) : TreeLikeness where
  expr e e' := ∃ trees, (L.withTrees trees).Unfolds ∧ trees.expr e e'
  body nodes nodes' := ∃ trees, (L.withTrees trees).Unfolds ∧ trees.body nodes nodes'
  callee m m' := ∃ trees, (L.withTrees trees).Unfolds ∧ trees.callee m m'
  template t t' := ∃ trees, (L.withTrees trees).Unfolds ∧ trees.template t t'
  value v v' := ∃ trees, (L.withTrees trees).Unfolds ∧ trees.value v v'

/-- The likeness with as many trees alike as can be. -/
def widest (L : Likeness) : Likeness := L.withTrees L.widestTrees

end Likeness

/-! ### Less and more that is alike -/

section Mono

variable {L M : Likeness}

section Expr

variable (h : L.LeExpr M)
include h

theorem forall₂_entry_mono {α α' : Type} {A B : α → α' → Prop} (hAB : ∀ a a', A a a' → B a a')
    {l : List (String × α)} {l' : List (String × α')} (hl : List.Forall₂ (L.entry A) l l') :
    List.Forall₂ (M.entry B) l l' :=
  hl.imp fun _ _ he => ⟨he.1, h.name _ he.2.1, hAB _ _ he.2.2⟩

omit h in
theorem rel_mono {α α' : Type} {A B : α → α' → Prop} (hAB : ∀ a a', A a a' → B a a')
    {o : Option α} {o' : Option α'} (ho : Option.Rel A o o') : Option.Rel B o o' := by
  cases ho with
  | some ha => exact .some (hAB _ _ ha)
  | none => exact .none

theorem Segment.Congruent.mono {s s' : Segment} (hs : s.Congruent L s') : s.Congruent M s' := by
  cases hs with
  | attr => exact .attr _
  | index => exact .index _
  | subscript hkey => exact .subscript (h.expr _ _ hkey)
  | call hargs => exact .call (hargs.imp h.expr)

theorem FilterCall.Congruent.mono {f f' : FilterCall} (hf : f.Congruent L f') :
    f.Congruent M f' := by
  cases hf with
  | mk _ _ harg hp => exact .mk _ _ (rel_mono h.expr harg) (h.position _ _ hp)

theorem Expr.Congruent.mono {e e' : Expr} (he : e.Congruent L e') : e.Congruent M e' := by
  cases he with
  | literal => exact .literal _
  | array hitems => exact .array (hitems.imp h.expr)
  | path hname hsegments hp =>
    exact .path (h.name _ hname) (hsegments.imp fun _ _ => Segment.Congruent.mono h)
      (h.position _ _ hp)
  | unary _ ha hp => exact .unary _ (h.expr _ _ ha) (h.position _ _ hp)
  | binary _ ha hb hp => exact .binary _ (h.expr _ _ ha) (h.expr _ _ hb) (h.position _ _ hp)
  | filtered ha hfilters =>
    exact .filtered (h.expr _ _ ha) (hfilters.imp fun _ _ => FilterCall.Congruent.mono h)

end Expr

variable (h : L.Le M)
include h

theorem Target.Congruent.mono {base : String} {target target' : Target}
    (ht : target.Congruent L base target') : target.Congruent M base target' := by
  cases ht with
  | linked ht => exact .linked (h.template _ _ ht)
  | named he => exact .named (h.expr _ _ he)
  | loose ht => exact .loose (h.included _ _ _ ht)

theorem Parent.Congruent.mono {base : String} {parent parent' : Parent}
    (hp : parent.Congruent L base parent') : parent.Congruent M base parent' := by
  cases hp with
  | linked ht => exact .linked (h.template _ _ ht)
  | named he hp => exact .named (h.expr _ _ he) (h.position _ _ hp)
  | loose ht => exact .loose (h.extended _ _ _ _ ht)

theorem Step.Congruent.mono {step step' : Step} (hs : step.Congruent L step') :
    step.Congruent M step' := by
  cases hs with
  | write => exact .write _
  | run hbody => exact .run (h.body _ _ hbody)
  | captured _ hbody => exact .captured _ (h.body _ _ hbody)
  | shown _ he => exact .shown _ (h.expr _ _ he)

theorem Statement.Congruent.mono {st st' : Statement} (hs : st.Congruent L st') :
    st.Congruent M st' := by
  cases hs with
  | branch hbranches hotherwise =>
    exact .branch (hbranches.imp fun _ _ hb => ⟨h.expr _ _ hb.1, h.body _ _ hb.2⟩)
      (rel_mono h.body hotherwise)
  | compare _ hlhs hrhs hbody hotherwise =>
    exact .compare _ (h.expr _ _ hlhs) (h.expr _ _ hrhs) (h.body _ _ hbody)
      (rel_mono h.body hotherwise)
  | loop _ _ hfirst hsecond hforloop hsource hbody hempty =>
    exact .loop _ _ (h.name _ hfirst) (fun name hname => h.name _ (hsecond name hname))
      (h.name _ hforloop) (h.expr _ _ hsource) (h.body _ _ hbody) (rel_mono h.body hempty)
  | cycle _ hforloop hvalues hname =>
    exact .cycle _ (h.name _ hforloop) (hvalues.imp h.expr) fun name hn => h.name _ (hname name hn)
  | firstOf hvalues => exact .firstOf (hvalues.imp h.expr)
  | block _ hbody => exact .block _ (h.body _ _ hbody)
  | includes _ _ htarget hbindings =>
    exact .includes _ _ (htarget.mono h) (forall₂_entry_mono h.toLeExpr h.expr hbindings)
  | imports hmacros => exact .imports (forall₂_entry_mono h.toLeExpr h.callee hmacros)
  | bind hbindings hbody =>
    exact .bind (forall₂_entry_mono h.toLeExpr h.expr hbindings) (h.body _ _ hbody)
  | assign hname he => exact .assign (h.name _ hname) (h.expr _ _ he)
  | define hname hm => exact .define (h.name _ hname) (h.callee _ _ hm)
  | escaping _ hbody => exact .escaping _ (h.body _ _ hbody)
  | filtering hfilters hbody =>
    exact .filtering (hfilters.imp fun _ _ => FilterCall.Congruent.mono h.toLeExpr)
      (h.body _ _ hbody)
  | spaceless hbody => exact .spaceless (h.body _ _ hbody)
  | nothing => exact .nothing
  | now => exact .now _ _
  | write => exact .write _
  | ratio hvalue hmost hwidth hname =>
    exact .ratio (h.expr _ _ hvalue) (h.expr _ _ hmost) (h.expr _ _ hwidth)
      fun name hn => h.name _ (hname name hn)
  | custom hsteps => exact .custom (hsteps.imp fun _ _ => Step.Congruent.mono h)

theorem Node.Congruent.mono {n n' : Node} (hn : n.Congruent L n') : n.Congruent M n' := by
  cases hn with
  | text => exact .text _
  | output hp he => exact .output (h.position _ _ hp) (h.expr _ _ he)
  | tag _ hp hs => exact .tag _ (h.position _ _ hp) (hs.mono h)

theorem Macro.Congruent.mono {m m' : Macro} (hm : m.Congruent L m') : m.Congruent M m' where
  name := hm.name
  params := forall₂_entry_mono h.toLeExpr (fun _ _ => rel_mono h.expr) hm.params
  body := h.body _ _ hm.body

theorem Template.Congruent.mono {t t' : Template} (ht : t.Congruent L t') : t.Congruent M t' where
  name := ht.name
  nodes := h.body _ _ ht.nodes
  parent := rel_mono (fun _ _ => Parent.Congruent.mono h) ht.parent
  block name := rel_mono h.body (ht.block name)

theorem Callback.Congruent.mono {c c' : Callback} (hc : c.Congruent L c') : c.Congruent M c' := by
  cases hc with
  | body hm => exact .body (h.callee _ _ hm)
  | super => exact .super
  | host _ hdata => exact .host _ (h.value _ _ hdata)

theorem Function.Congruent.mono {f f' : Function} (hf : f.Congruent L f') :
    f.Congruent M f' where
  name := hf.name
  params := hf.params
  optional := hf.optional
  variadic := hf.variadic
  callback := hf.callback.mono h

theorem forall₂_field_mono {entries entries' : List (String × Value)}
    (hentries : List.Forall₂ L.field entries entries') : List.Forall₂ M.field entries entries' :=
  hentries.imp fun _ _ he => ⟨he.1, h.value _ _ he.2⟩

theorem HostRecord.Congruent.mono {r r' : HostRecord} (hr : r.Congruent L r') :
    r.Congruent M r' where
  kind := hr.kind
  attrs := forall₂_field_mono h hr.attrs
  items := hr.items.imp h.value
  methods := hr.methods
  visits := rel_mono (fun _ _ hvisits => hvisits.imp h.value) hr.visits
  size := hr.size
  shown := hr.shown

theorem Value.Congruent.mono {v v' : Value} (hv : v.Congruent L v') : v.Congruent M v' := by
  cases hv with
  | nil => exact .nil
  | bool => exact .bool _
  | int => exact .int _
  | float => exact .float _
  | str => exact .str _
  | safe => exact .safe _
  | seq hitems => exact .seq (hitems.imp h.value)
  | map hentries => exact .map (forall₂_field_mono h hentries)
  | record hr => exact .record (hr.mono h)
  | func hf => exact .func (hf.mono h)

end Mono

/-! ### The widest likeness -/

namespace Likeness

variable {L : Likeness}

theorem withTrees_le_widest {trees : TreeLikeness} (h : (L.withTrees trees).Unfolds) :
    (L.withTrees trees).Le L.widest where
  name _ := id
  position _ _ := id
  expr _ _ he := ⟨trees, h, he⟩
  body _ _ hn := ⟨trees, h, hn⟩
  callee _ _ hm := ⟨trees, h, hm⟩
  template _ _ ht := ⟨trees, h, ht⟩
  value _ _ hv := ⟨trees, h, hv⟩
  included _ _ _ := id
  extended _ _ _ _ := id

theorem widest_unfolds (L : Likeness) : L.widest.Unfolds where
  expr := by
    rintro e e' ⟨trees, h, he⟩
    exact (h.expr he).mono (withTrees_le_widest h).toLeExpr
  body := by
    rintro nodes nodes' ⟨trees, h, hnodes⟩
    exact (h.body hnodes).imp fun _ _ => Node.Congruent.mono (withTrees_le_widest h)
  callee := by
    rintro m m' ⟨trees, h, hm⟩
    exact (h.callee hm).mono (withTrees_le_widest h)
  template := by
    rintro t t' ⟨trees, h, ht⟩
    exact (h.template ht).mono (withTrees_le_widest h)
  value := by
    rintro v v' ⟨trees, h, hv⟩
    exact (h.value hv).mono (withTrees_le_widest h)

/-- Trees that are made in the same way of parts that are alike in the widest likeness. -/
def onceUnfolded (L : Likeness) : TreeLikeness where
  expr := Expr.Congruent L.widest
  body := List.Forall₂ (Node.Congruent L.widest)
  callee := Macro.Congruent L.widest
  template := Template.Congruent L.widest
  value := Value.Congruent L.widest

theorem widest_le_onceUnfolded (L : Likeness) : L.widest.Le (L.withTrees L.onceUnfolded) where
  name _ := id
  position _ _ := id
  expr _ _ := L.widest_unfolds.expr
  body _ _ := L.widest_unfolds.body
  callee _ _ := L.widest_unfolds.callee
  template _ _ := L.widest_unfolds.template
  value _ _ := L.widest_unfolds.value
  included _ _ _ := id
  extended _ _ _ _ := id

theorem widest_folds (L : Likeness) : L.widest.Folds := by
  have h : (L.withTrees L.onceUnfolded).Unfolds :=
    ⟨fun he => he.mono L.widest_le_onceUnfolded.toLeExpr,
      fun hn => hn.imp fun _ _ => Node.Congruent.mono L.widest_le_onceUnfolded,
      fun hm => hm.mono L.widest_le_onceUnfolded, fun ht => ht.mono L.widest_le_onceUnfolded,
      fun hv => hv.mono L.widest_le_onceUnfolded⟩
  exact ⟨fun he => ⟨_, h, he⟩, fun hn => ⟨_, h, hn⟩, fun hm => ⟨_, h, hm⟩, fun ht => ⟨_, h, ht⟩,
    fun hv => ⟨_, h, hv⟩⟩

end Likeness

end Stencil
