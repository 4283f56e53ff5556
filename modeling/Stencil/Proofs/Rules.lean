import Stencil.Proofs.Text.Plain
import Stencil.Tag

/-!
# Rules for trees

Rules say what may stand in templates: whether texts may hold markup, which filters and tags may
stand under which names, whether escaping may be turned off, whether tags of the host may stand,
which bodies blocks may have, and how deep tags may nest. A tree obeys them if everything in it
does: in the bodies of tags, in the arguments of filters and calls, in the defaults of parameters,
and in the templates and macros that were linked into it.
-/

namespace Stencil

/-- What may stand in templates. -/
structure Rules where
  /-- Whether texts may hold characters of markup. -/
  markup : Prop := True
  filter : String → FilterRef → Prop := fun _ _ => True
  tag : String → Prop := fun _ => True
  /-- What `autoescape` may set. -/
  escaping : Bool → Prop := fun _ => True
  /-- Whether tags of the host may stand. -/
  custom : Prop := True
  /-- A block with its body, in a template with the given blocks. -/
  block : Table Body → String → Body → Prop := fun _ _ _ => True
  /-- How deep tags with a body may nest. -/
  nesting : Nat

/-- A text that may stand in templates. -/
def Rules.text (r : Rules) (s : String) : Prop := r.markup ∨ Text.Plain s.toList

/-! ## Expressions -/

mutual

/-- An expression whose filters are allowed, in its operands, arguments and subscripts. -/
inductive Expr.Obeys (r : Rules) : Expr → Prop where
  | literal (value : Literal) : Expr.Obeys r (.literal value)
  | array {items : List Expr} (hitems : ∀ e ∈ items, Expr.Obeys r e) : Expr.Obeys r (.array items)
  | path {name : String} {segments : List Segment} {p : Position}
      (hsegments : ∀ segment ∈ segments, Segment.Obeys r segment) :
      Expr.Obeys r (.path name segments p)
  | unary {op : UnaryOp} {e : Expr} {p : Position} (he : Expr.Obeys r e) :
      Expr.Obeys r (.unary op e p)
  | binary {op : BinaryOp} {a b : Expr} {p : Position} (ha : Expr.Obeys r a)
      (hb : Expr.Obeys r b) : Expr.Obeys r (.binary op a b p)
  | filtered {e : Expr} {filters : List FilterCall} (he : Expr.Obeys r e)
      (hfilters : ∀ f ∈ filters, FilterCall.Obeys r f) : Expr.Obeys r (.filtered e filters)

/-- A step of a path whose expressions obey the rules. -/
inductive Segment.Obeys (r : Rules) : Segment → Prop where
  | attr (name : String) : Segment.Obeys r (.attr name)
  | index (n : Int) : Segment.Obeys r (.index n)
  | subscript {key : Expr} (hkey : Expr.Obeys r key) : Segment.Obeys r (.subscript key)
  | call {args : List Expr} (hargs : ∀ e ∈ args, Expr.Obeys r e) : Segment.Obeys r (.call args)

/-- An allowed filter whose argument obeys the rules. -/
inductive FilterCall.Obeys (r : Rules) : FilterCall → Prop where
  | mk {name : String} {arg : Option Expr} {p : Position} {f : FilterRef} (hf : r.filter name f)
      (harg : ∀ e ∈ arg, Expr.Obeys r e) : FilterCall.Obeys r (.mk name arg p f)

end

/-! ## Templates -/

mutual

/-- A node that obeys the rules in a template with the given blocks, and below which at most `room`
tags with a body nest. -/
inductive Node.Obeys (r : Rules) : Table Body → Nat → Node → Prop where
  | text {blocks : Table Body} {room : Nat} {s : String} (hs : r.text s) :
      Node.Obeys r blocks room (.text s)
  | output {blocks : Table Body} {room : Nat} {p : Position} {e : Expr} (he : e.Obeys r) :
      Node.Obeys r blocks room (.output p e)
  | tag {blocks : Table Body} {room : Nat} {name : String} {p : Position} {statement : Statement}
      (hname : r.tag name) (hstatement : Statement.Obeys r blocks room statement) :
      Node.Obeys r blocks room (.tag name p statement)

/-- A statement that obeys the rules, where `room` bounds the bodies that nest. -/
inductive Statement.Obeys (r : Rules) : Table Body → Nat → Statement → Prop where
  | branch {blocks : Table Body} {inner room : Nat} {branches : List (Expr × List Node)}
      {otherwise : Option (List Node)} (hroom : inner < room)
      (hconditions : ∀ b ∈ branches, b.1.Obeys r)
      (hbodies : ∀ b ∈ branches, ∀ n ∈ b.2, Node.Obeys r blocks inner n)
      (hotherwise : ∀ body ∈ otherwise, ∀ n ∈ body, Node.Obeys r blocks inner n) :
      Statement.Obeys r blocks room (.branch branches otherwise)
  | compare {blocks : Table Body} {inner room : Nat} {lhs rhs : Expr} {negated : Bool}
      {body : List Node} {otherwise : Option (List Node)} (hroom : inner < room)
      (hlhs : lhs.Obeys r) (hrhs : rhs.Obeys r)
      (hbody : ∀ n ∈ body, Node.Obeys r blocks inner n)
      (hotherwise : ∀ body ∈ otherwise, ∀ n ∈ body, Node.Obeys r blocks inner n) :
      Statement.Obeys r blocks room (.compare lhs rhs negated body otherwise)
  | loop {blocks : Table Body} {inner room : Nat} {first : String} {second : Option String}
      {source : Expr} {reversed sorted : Bool} {body : List Node} {empty : Option (List Node)}
      (hroom : inner < room) (hsource : source.Obeys r)
      (hbody : ∀ n ∈ body, Node.Obeys r blocks inner n)
      (hempty : ∀ body ∈ empty, ∀ n ∈ body, Node.Obeys r blocks inner n) :
      Statement.Obeys r blocks room (.loop first second source reversed sorted body empty)
  | cycle {blocks : Table Body} {room : Nat} {values : List Expr} {target : Option String}
      {silent : Bool} (hvalues : ∀ e ∈ values, e.Obeys r) :
      Statement.Obeys r blocks room (.cycle values target silent)
  | firstOf {blocks : Table Body} {room : Nat} {values : List Expr}
      (hvalues : ∀ e ∈ values, e.Obeys r) : Statement.Obeys r blocks room (.firstOf values)
  | block {blocks : Table Body} {inner room : Nat} {name : String} {body : List Node}
      (hroom : inner < room) (hblock : r.block blocks name body)
      (hbody : ∀ n ∈ body, Node.Obeys r blocks inner n) :
      Statement.Obeys r blocks room (.block name body)
  | includes {blocks : Table Body} {room : Nat} {target : Target} {base : String}
      {bindings : List (String × Expr)} {only ifExists : Bool} (htarget : Target.Obeys r target)
      (hbindings : ∀ b ∈ bindings, b.2.Obeys r) :
      Statement.Obeys r blocks room (.includes target base bindings only ifExists)
  | imports {blocks : Table Body} {room : Nat} {macros : List (String × Macro)}
      (hmacros : ∀ m ∈ macros, Macro.Obeys r m.2) : Statement.Obeys r blocks room (.imports macros)
  | bind {blocks : Table Body} {inner room : Nat} {bindings : List (String × Expr)}
      {body : List Node} (hroom : inner < room) (hbindings : ∀ b ∈ bindings, b.2.Obeys r)
      (hbody : ∀ n ∈ body, Node.Obeys r blocks inner n) :
      Statement.Obeys r blocks room (.bind bindings body)
  | assign {blocks : Table Body} {room : Nat} {name : String} {e : Expr} (he : e.Obeys r) :
      Statement.Obeys r blocks room (.assign name e)
  | define {blocks : Table Body} {room : Nat} {m : Macro} (hm : Macro.Obeys r m) :
      Statement.Obeys r blocks room (.define m)
  | escaping {blocks : Table Body} {inner room : Nat} {enabled : Bool} {body : List Node}
      (hroom : inner < room) (henabled : r.escaping enabled)
      (hbody : ∀ n ∈ body, Node.Obeys r blocks inner n) :
      Statement.Obeys r blocks room (.escaping enabled body)
  | filtering {blocks : Table Body} {inner room : Nat} {filters : List FilterCall}
      {body : List Node} (hroom : inner < room) (hfilters : ∀ f ∈ filters, f.Obeys r)
      (hbody : ∀ n ∈ body, Node.Obeys r blocks inner n) :
      Statement.Obeys r blocks room (.filtering filters body)
  | spaceless {blocks : Table Body} {inner room : Nat} {body : List Node} (hroom : inner < room)
      (hbody : ∀ n ∈ body, Node.Obeys r blocks inner n) :
      Statement.Obeys r blocks room (.spaceless body)
  | nothing {blocks : Table Body} {room : Nat} : Statement.Obeys r blocks room .nothing
  | now {blocks : Table Body} {room : Nat} {format : String} {fake : Bool} :
      Statement.Obeys r blocks room (.now format fake)
  | write {blocks : Table Body} {room : Nat} {text : String} (htext : r.text text) :
      Statement.Obeys r blocks room (.write text)
  | ratio {blocks : Table Body} {room : Nat} {value most width : Expr} {target : Option String}
      (hvalue : value.Obeys r) (hmost : most.Obeys r) (hwidth : width.Obeys r) :
      Statement.Obeys r blocks room (.ratio value most width target)
  | custom {blocks : Table Body} {inner room : Nat} {steps : List Step} (hcustom : r.custom)
      (hroom : inner < room) (hsteps : ∀ step ∈ steps, Step.Obeys r blocks inner step) :
      Statement.Obeys r blocks room (.custom steps)

/-- A step of a tag of the host that obeys the rules. -/
inductive Step.Obeys (r : Rules) : Table Body → Nat → Step → Prop where
  | write {blocks : Table Body} {room : Nat} {text : String} :
      Step.Obeys r blocks room (.write text)
  | run {blocks : Table Body} {room : Nat} {body : List Node}
      (hbody : ∀ n ∈ body, Node.Obeys r blocks room n) : Step.Obeys r blocks room (.run body)
  | captured {blocks : Table Body} {room : Nat} {key : String} {body : List Node}
      (hbody : ∀ n ∈ body, Node.Obeys r blocks room n) :
      Step.Obeys r blocks room (.captured key body)
  | shown {blocks : Table Body} {room : Nat} {key : String} {e : Expr} (he : e.Obeys r) :
      Step.Obeys r blocks room (.shown key e)

/-- What an include names obeys the rules. -/
inductive Target.Obeys (r : Rules) : Target → Prop where
  | linked {t : Template} (ht : Template.Obeys r t) : Target.Obeys r (.linked t)
  | named {e : Expr} (he : e.Obeys r) : Target.Obeys r (.named e)

/-- The parent of a template obeys the rules. -/
inductive Parent.Obeys (r : Rules) : Parent → Prop where
  | linked {t : Template} (ht : Template.Obeys r t) : Parent.Obeys r (.linked t)
  | named {e : Expr} {p : Position} (he : e.Obeys r) : Parent.Obeys r (.named e p)

/-- A macro that obeys the rules, in the template where it stands. -/
inductive Macro.Obeys (r : Rules) : Macro → Prop where
  | intro {m : Macro} (blocks : Table Body) (hparams : ∀ p ∈ m.params, ∀ e ∈ p.2, e.Obeys r)
      (hbody : ∀ n ∈ m.body, Node.Obeys r blocks r.nesting n) : Macro.Obeys r m

/-- A template that obeys the rules, with its ancestors and all it links to. -/
inductive Template.Obeys (r : Rules) : Template → Prop where
  | intro {t : Template} (hescaping : r.escaping t.options.autoescape)
      (hnodes : ∀ n ∈ t.nodes, Node.Obeys r t.blocks r.nesting n)
      (hparent : ∀ parent ∈ t.parent, Parent.Obeys r parent)
      (hblocks : ∀ b ∈ t.blocks, r.block t.blocks b.1 b.2)
      (hbodies : ∀ b ∈ t.blocks, ∀ n ∈ b.2, Node.Obeys r t.blocks r.nesting n)
      (hmacros : ∀ m ∈ t.macros, Macro.Obeys r m.2) : Template.Obeys r t

end

/-- A body whose nodes obey the rules. -/
def Body.Obeys (r : Rules) (blocks : Table Body) (room : Nat) (body : Body) : Prop :=
  ∀ n ∈ body, Node.Obeys r blocks room n

/-! ## More room -/

section Room

variable {r : Rules} {blocks : Table Body} {room more : Nat}

theorem Statement.Obeys.mono {statement : Statement} (h : statement.Obeys r blocks room)
    (hmore : room ≤ more) : statement.Obeys r blocks more := by
  cases h with
  | branch hroom hconditions hbodies hotherwise =>
    exact .branch (Nat.lt_of_lt_of_le hroom hmore) hconditions hbodies hotherwise
  | compare hroom hlhs hrhs hbody hotherwise =>
    exact .compare (Nat.lt_of_lt_of_le hroom hmore) hlhs hrhs hbody hotherwise
  | loop hroom hsource hbody hempty =>
    exact .loop (Nat.lt_of_lt_of_le hroom hmore) hsource hbody hempty
  | cycle hvalues => exact .cycle hvalues
  | firstOf hvalues => exact .firstOf hvalues
  | block hroom hblock hbody => exact .block (Nat.lt_of_lt_of_le hroom hmore) hblock hbody
  | includes htarget hbindings => exact .includes htarget hbindings
  | imports hmacros => exact .imports hmacros
  | bind hroom hbindings hbody => exact .bind (Nat.lt_of_lt_of_le hroom hmore) hbindings hbody
  | assign he => exact .assign he
  | define hm => exact .define hm
  | escaping hroom henabled hbody => exact .escaping (Nat.lt_of_lt_of_le hroom hmore) henabled hbody
  | filtering hroom hfilters hbody =>
    exact .filtering (Nat.lt_of_lt_of_le hroom hmore) hfilters hbody
  | spaceless hroom hbody => exact .spaceless (Nat.lt_of_lt_of_le hroom hmore) hbody
  | nothing => exact .nothing
  | now => exact .now
  | write htext => exact .write htext
  | ratio hvalue hmost hwidth => exact .ratio hvalue hmost hwidth
  | custom hcustom hroom hsteps => exact .custom hcustom (Nat.lt_of_lt_of_le hroom hmore) hsteps

theorem Node.Obeys.mono {n : Node} (h : n.Obeys r blocks room) (hmore : room ≤ more) :
    n.Obeys r blocks more := by
  cases h with
  | text hs => exact .text hs
  | output he => exact .output he
  | tag hname hstatement => exact .tag hname (hstatement.mono hmore)

theorem Body.Obeys.mono {body : Body} (h : body.Obeys r blocks room) (hmore : room ≤ more) :
    body.Obeys r blocks more := fun n hn => (h n hn).mono hmore

end Room

end Stencil
