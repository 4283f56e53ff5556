import Stencil.Error
import Stencil.Value.Signature

/-!
# Vocabularies

A vocabulary says what may be mentioned: which variables may be read, which blocks may be shown,
whether templates may be looked up, and at which positions something may stand that can fail. A
tree is within a vocabulary if everything in it is: the bodies of tags, the arguments of filters and
calls, the defaults of parameters, and the templates and macros that were linked into it. A value is
within it if the macros in it are.
-/

namespace Stencil

section Words

/-- What may be mentioned. -/
structure Vocabulary where
  /-- The variables that may be read. -/
  name : String → Prop := fun _ => True
  /-- The blocks that may be shown. -/
  block : String → Prop := fun _ => True
  /-- Whether templates may be looked up during a render. -/
  lookup : Prop := True
  /-- Where something may stand that can fail when it is executed. -/
  position : Position → Prop := fun _ => True
  /-- Where reading a template may fail. -/
  unread : Position → Prop := fun _ => True
  /-- The templates that may be linked to, whatever is in them. -/
  linked : Template → Prop := fun _ => False
  /-- The macros that may be imported, whatever is in them. -/
  imported : Macro → Prop := fun _ => False

/-- A vocabulary that says something about positions only. Of the templates that may be linked to
freely the macros may be imported freely. -/
structure Vocabulary.Wide (V : Vocabulary) : Prop where
  name : ∀ name, V.name name
  block : ∀ name, V.block name
  lookup : V.lookup
  imported : ∀ t, V.linked t → ∀ m ∈ t.macros, V.imported m.2

variable (V : Vocabulary)

/-! ### Expressions -/

mutual

/-- An expression within the vocabulary, with its operands, arguments and subscripts. -/
inductive Expr.Within : Expr → Prop where
  | literal (value : Literal) : Expr.Within (.literal value)
  | array {items : List Expr} (hitems : ∀ e ∈ items, Expr.Within e) : Expr.Within (.array items)
  | path {name : String} {segments : List Segment} {p : Position} (hname : V.name name)
      (hsegments : ∀ segment ∈ segments, Segment.Within segment) (hp : V.position p) :
      Expr.Within (.path name segments p)
  | unary {op : UnaryOp} {e : Expr} {p : Position} (he : Expr.Within e) (hp : V.position p) :
      Expr.Within (.unary op e p)
  | binary {op : BinaryOp} {a b : Expr} {p : Position} (ha : Expr.Within a) (hb : Expr.Within b)
      (hp : V.position p) : Expr.Within (.binary op a b p)
  | filtered {e : Expr} {filters : List FilterCall} (he : Expr.Within e)
      (hfilters : ∀ f ∈ filters, FilterCall.Within f) : Expr.Within (.filtered e filters)

/-- A step of a path within the vocabulary. -/
inductive Segment.Within : Segment → Prop where
  | attr (name : String) : Segment.Within (.attr name)
  | index (n : Int) : Segment.Within (.index n)
  | subscript {key : Expr} (hkey : Expr.Within key) : Segment.Within (.subscript key)
  | call {args : List Expr} (hargs : ∀ e ∈ args, Expr.Within e) : Segment.Within (.call args)

/-- A filter whose argument is within the vocabulary. -/
inductive FilterCall.Within : FilterCall → Prop where
  | mk {name : String} {arg : Option Expr} {p : Position} {f : FilterRef}
      (harg : ∀ e ∈ arg, Expr.Within e) (hp : V.position p) : FilterCall.Within (.mk name arg p f)

end

/-! ### Templates -/

mutual

/-- A node within the vocabulary. -/
inductive Node.Within : Node → Prop where
  | text (s : String) : Node.Within (.text s)
  | output {p : Position} {e : Expr} (hp : V.position p) (he : e.Within V) :
      Node.Within (.output p e)
  | tag {name : String} {p : Position} {statement : Statement} (hp : V.position p)
      (hstatement : Statement.Within statement) : Node.Within (.tag name p statement)

/-- A statement within the vocabulary. Loops and cycles read the variable `forloop`. -/
inductive Statement.Within : Statement → Prop where
  | branch {branches : List (Expr × List Node)} {otherwise : Option (List Node)}
      (hconditions : ∀ b ∈ branches, b.1.Within V)
      (hbodies : ∀ b ∈ branches, ∀ n ∈ b.2, Node.Within n)
      (hotherwise : ∀ body ∈ otherwise, ∀ n ∈ body, Node.Within n) :
      Statement.Within (.branch branches otherwise)
  | compare {lhs rhs : Expr} {negated : Bool} {body : List Node} {otherwise : Option (List Node)}
      (hlhs : lhs.Within V) (hrhs : rhs.Within V) (hbody : ∀ n ∈ body, Node.Within n)
      (hotherwise : ∀ body ∈ otherwise, ∀ n ∈ body, Node.Within n) :
      Statement.Within (.compare lhs rhs negated body otherwise)
  | loop {first : String} {second : Option String} {source : Expr} {reversed sorted : Bool}
      {body : List Node} {empty : Option (List Node)} (hforloop : V.name "forloop")
      (hsource : source.Within V) (hbody : ∀ n ∈ body, Node.Within n)
      (hempty : ∀ body ∈ empty, ∀ n ∈ body, Node.Within n) :
      Statement.Within (.loop first second source reversed sorted body empty)
  | cycle {values : List Expr} {target : Option String} {silent : Bool}
      (hforloop : V.name "forloop") (hvalues : ∀ e ∈ values, e.Within V) :
      Statement.Within (.cycle values target silent)
  | firstOf {values : List Expr} (hvalues : ∀ e ∈ values, e.Within V) :
      Statement.Within (.firstOf values)
  | block {name : String} {body : List Node} (hname : V.block name)
      (hbody : ∀ n ∈ body, Node.Within n) : Statement.Within (.block name body)
  | includes {target : Target} {base : String} {bindings : List (String × Expr)}
      {only ifExists : Bool} (htarget : Target.Within target)
      (hbindings : ∀ b ∈ bindings, b.2.Within V) :
      Statement.Within (.includes target base bindings only ifExists)
  | imports {macros : List (String × Macro)}
      (hmacros : ∀ m ∈ macros, ¬V.imported m.2 → Macro.Within m.2) :
      Statement.Within (.imports macros)
  | bind {bindings : List (String × Expr)} {body : List Node}
      (hbindings : ∀ b ∈ bindings, b.2.Within V) (hbody : ∀ n ∈ body, Node.Within n) :
      Statement.Within (.bind bindings body)
  | assign {name : String} {e : Expr} (he : e.Within V) : Statement.Within (.assign name e)
  | define {m : Macro} (hm : Macro.Within m) : Statement.Within (.define m)
  | escaping {enabled : Bool} {body : List Node} (hbody : ∀ n ∈ body, Node.Within n) :
      Statement.Within (.escaping enabled body)
  | filtering {filters : List FilterCall} {body : List Node} (hfilters : ∀ f ∈ filters, f.Within V)
      (hbody : ∀ n ∈ body, Node.Within n) : Statement.Within (.filtering filters body)
  | spaceless {body : List Node} (hbody : ∀ n ∈ body, Node.Within n) :
      Statement.Within (.spaceless body)
  | nothing : Statement.Within .nothing
  | now (format : String) (fake : Bool) : Statement.Within (.now format fake)
  | write (text : String) : Statement.Within (.write text)
  | ratio {value most width : Expr} {target : Option String} (hvalue : value.Within V)
      (hmost : most.Within V) (hwidth : width.Within V) :
      Statement.Within (.ratio value most width target)
  | custom {steps : List Step} (hsteps : ∀ step ∈ steps, Step.Within step) :
      Statement.Within (.custom steps)

/-- A step of a tag of the host within the vocabulary. -/
inductive Step.Within : Step → Prop where
  | write (text : String) : Step.Within (.write text)
  | run {body : List Node} (hbody : ∀ n ∈ body, Node.Within n) : Step.Within (.run body)
  | captured {key : String} {body : List Node} (hbody : ∀ n ∈ body, Node.Within n) :
      Step.Within (.captured key body)
  | shown {key : String} {e : Expr} (he : e.Within V) : Step.Within (.shown key e)

/-- What an include names is within the vocabulary. -/
inductive Target.Within : Target → Prop where
  | linked {t : Template} (ht : ¬V.linked t → Template.Within t) : Target.Within (.linked t)
  | named {e : Expr} (hlookup : V.lookup) (he : e.Within V) : Target.Within (.named e)

/-- The parent of a template is within the vocabulary. -/
inductive Parent.Within : Parent → Prop where
  | linked {t : Template} (ht : ¬V.linked t → Template.Within t) : Parent.Within (.linked t)
  | named {e : Expr} {p : Position} (hlookup : V.lookup) (he : e.Within V) (hp : V.position p) :
      Parent.Within (.named e p)

/-- A macro within the vocabulary. -/
inductive Macro.Within : Macro → Prop where
  | intro {m : Macro} (hparams : ∀ p ∈ m.params, ∀ e ∈ p.2, e.Within V)
      (hbody : ∀ n ∈ m.body, Node.Within n) : Macro.Within m

/-- A template within the vocabulary, with its ancestors and all it links to but for what may be
linked to freely. -/
inductive Template.Within : Template → Prop where
  | intro {t : Template} (hnodes : ∀ n ∈ t.nodes, Node.Within n)
      (hparent : ∀ parent ∈ t.parent, Parent.Within parent)
      (hblocks : ∀ b ∈ t.blocks, ∀ n ∈ b.2, Node.Within n)
      (hmacros : ∀ m ∈ t.macros, Macro.Within m.2) : Template.Within t

end

/-- A body whose nodes are within the vocabulary. -/
def Body.Within (body : Body) : Prop := ∀ n ∈ body, n.Within V

/-! ### Values -/

mutual

/-- A value whose macros are within the vocabulary. -/
inductive Value.Within : Value → Prop where
  | nil : Value.Within .nil
  | bool (b : Bool) : Value.Within (.bool b)
  | int (n : Int) : Value.Within (.int n)
  | float (x : Float) : Value.Within (.float x)
  | str (s : String) : Value.Within (.str s)
  | safe (s : String) : Value.Within (.safe s)
  | seq {items : List Value} (hitems : ∀ v ∈ items, Value.Within v) : Value.Within (.seq items)
  | map {entries : List (String × Value)} (hentries : ∀ e ∈ entries, Value.Within e.2) :
      Value.Within (.map entries)
  | record {r : HostRecord} (hattrs : ∀ e ∈ r.attrs, Value.Within e.2)
      (hitems : ∀ v ∈ r.items, Value.Within v)
      (hvisits : ∀ vs ∈ r.visits, ∀ v ∈ vs, Value.Within v) : Value.Within (.record r)
  | func {f : Function} (hf : Callback.Within f.callback) : Value.Within (.func f)

/-- What a function does is within the vocabulary. -/
inductive Callback.Within : Callback → Prop where
  | body {m : Macro} (hm : m.Within V) : Callback.Within (.body m)
  | super : Callback.Within .super
  | host {key : String} {data : Value} (hdata : Value.Within data) :
    Callback.Within (.host key data)

end

/-- An error that is located, if it is, where the vocabulary says. -/
def Error.Within : Error → Prop
  | .lex p _ => V.unread p
  | .parse p _ _ => V.unread p
  | .execution p _ _ => ∀ q ∈ p, V.position q
  | _ => True

/-- An error of reading that is where the vocabulary says. It is no error of a render that is
located already. -/
def Error.Unread : Error → Prop
  | .lex p _ => V.unread p
  | .parse p _ _ => V.unread p
  | .execution p _ _ => p = none
  | _ => True

/-- The template may be linked to: it is free to be, or it is within the vocabulary. -/
def Vocabulary.Links (t : Template) : Prop := ¬V.linked t → t.Within V

/-- Values by name that are within the vocabulary. -/
def Bindings.Within (b : Bindings) : Prop := ∀ e ∈ b, e.2.Within V

/-! ### Parts -/

section Parts

variable {V}

theorem Macro.Within.params {m : Macro} (h : m.Within V) : ∀ p ∈ m.params, ∀ e ∈ p.2, e.Within V :=
  match h with
  | .intro hparams _ => hparams

theorem Macro.Within.body {m : Macro} (h : m.Within V) : Body.Within V m.body :=
  match h with
  | .intro _ hbody => hbody

theorem Template.Within.nodes {t : Template} (h : t.Within V) : Body.Within V t.nodes :=
  match h with
  | .intro hnodes _ _ _ => hnodes

theorem Template.Within.parent {t : Template} (h : t.Within V) :
    ∀ parent ∈ t.parent, parent.Within V :=
  match h with
  | .intro _ hparent _ _ => hparent

theorem Template.Within.blocks {t : Template} (h : t.Within V) :
    ∀ b ∈ t.blocks, Body.Within V b.2 :=
  match h with
  | .intro _ _ hblocks _ => hblocks

theorem Template.Within.macros {t : Template} (h : t.Within V) : ∀ m ∈ t.macros, m.2.Within V :=
  match h with
  | .intro _ _ _ hmacros => hmacros

theorem Error.Unread.within {e : Error} (h : e.Unread V) : e.Within V := by
  cases e with
  | lex | parse => exact h
  | execution p =>
    obtain rfl : p = none := h
    exact nofun
  | _ => trivial

theorem within_ofMacro {m : Macro} (h : m.Within V) : Value.Within V (.func (.ofMacro m)) :=
  .func (.body h)

end Parts

end Words

/-!
## Wider vocabularies

What is within a vocabulary is within each wider one.
-/

section Wider

/-- The second vocabulary allows a tree whatever the first one does. -/
structure Vocabulary.Le (V W : Vocabulary) : Prop where
  name : ∀ {name}, V.name name → W.name name
  block : ∀ {name}, V.block name → W.block name
  lookup : V.lookup → W.lookup
  position : ∀ {p}, V.position p → W.position p
  linked : ∀ {t}, V.linked t → W.linked t
  imported : ∀ {m}, V.imported m → W.imported m

variable {V W : Vocabulary}

mutual

theorem Expr.Within.mono (h : V.Le W) : {e : Expr} → e.Within V → e.Within W
  | _, .literal l => .literal l
  | _, .array hitems => .array fun e he => (hitems e he).mono h
  | _, .path hname hsegments hp =>
    .path (h.name hname) (fun s hs => (hsegments s hs).mono h) (h.position hp)
  | _, .unary he hp => .unary (he.mono h) (h.position hp)
  | _, .binary ha hb hp => .binary (ha.mono h) (hb.mono h) (h.position hp)
  | _, .filtered he hfilters => .filtered (he.mono h) fun f hf => (hfilters f hf).mono h

theorem Segment.Within.mono (h : V.Le W) : {s : Segment} → s.Within V → s.Within W
  | _, .attr name => .attr name
  | _, .index n => .index n
  | _, .subscript hkey => .subscript (hkey.mono h)
  | _, .call hargs => .call fun e he => (hargs e he).mono h

theorem FilterCall.Within.mono (h : V.Le W) : {f : FilterCall} → f.Within V → f.Within W
  | _, .mk harg hp => .mk (fun e he => (harg e he).mono h) (h.position hp)

end

mutual

theorem Node.Within.mono (h : V.Le W) : {n : Node} → n.Within V → n.Within W
  | _, .text s => .text s
  | _, .output hp he => .output (h.position hp) (he.mono h)
  | _, .tag hp hstatement => .tag (h.position hp) (hstatement.mono h)

theorem Statement.Within.mono (h : V.Le W) : {st : Statement} → st.Within V → st.Within W
  | _, .branch hconditions hbodies hotherwise =>
    .branch (fun b hb => (hconditions b hb).mono h) (fun b hb n hn => (hbodies b hb n hn).mono h)
      fun body hbody n hn => (hotherwise body hbody n hn).mono h
  | _, .compare hlhs hrhs hbody hotherwise =>
    .compare (hlhs.mono h) (hrhs.mono h) (fun n hn => (hbody n hn).mono h)
      fun body hbody n hn => (hotherwise body hbody n hn).mono h
  | _, .loop hforloop hsource hbody hempty =>
    .loop (h.name hforloop) (hsource.mono h) (fun n hn => (hbody n hn).mono h)
      fun body hbody n hn => (hempty body hbody n hn).mono h
  | _, .cycle hforloop hvalues => .cycle (h.name hforloop) fun e he => (hvalues e he).mono h
  | _, .firstOf hvalues => .firstOf fun e he => (hvalues e he).mono h
  | _, .block hname hbody => .block (h.block hname) fun n hn => (hbody n hn).mono h
  | _, .includes htarget hbindings =>
    .includes (htarget.mono h) fun b hb => (hbindings b hb).mono h
  | _, .imports hmacros =>
    .imports fun m hm hfree => (hmacros m hm fun himported => hfree (h.imported himported)).mono h
  | _, .bind hbindings hbody =>
    .bind (fun b hb => (hbindings b hb).mono h) fun n hn => (hbody n hn).mono h
  | _, .assign he => .assign (he.mono h)
  | _, .define hm => .define (hm.mono h)
  | _, .escaping hbody => .escaping fun n hn => (hbody n hn).mono h
  | _, .filtering hfilters hbody =>
    .filtering (fun f hf => (hfilters f hf).mono h) fun n hn => (hbody n hn).mono h
  | _, .spaceless hbody => .spaceless fun n hn => (hbody n hn).mono h
  | _, .nothing => .nothing
  | _, .now format fake => .now format fake
  | _, .write text => .write text
  | _, .ratio hvalue hmost hwidth => .ratio (hvalue.mono h) (hmost.mono h) (hwidth.mono h)
  | _, .custom hsteps => .custom fun step hs => (hsteps step hs).mono h

theorem Step.Within.mono (h : V.Le W) : {step : Step} → step.Within V → step.Within W
  | _, .write text => .write text
  | _, .run hbody => .run fun n hn => (hbody n hn).mono h
  | _, .captured hbody => .captured fun n hn => (hbody n hn).mono h
  | _, .shown he => .shown (he.mono h)

theorem Target.Within.mono (h : V.Le W) : {target : Target} → target.Within V → target.Within W
  | _, .linked ht => .linked fun hfree => (ht fun hlinked => hfree (h.linked hlinked)).mono h
  | _, .named hlookup he => .named (h.lookup hlookup) (he.mono h)

theorem Parent.Within.mono (h : V.Le W) : {parent : Parent} → parent.Within V → parent.Within W
  | _, .linked ht => .linked fun hfree => (ht fun hlinked => hfree (h.linked hlinked)).mono h
  | _, .named hlookup he hp => .named (h.lookup hlookup) (he.mono h) (h.position hp)

theorem Macro.Within.mono (h : V.Le W) : {m : Macro} → m.Within V → m.Within W
  | _, .intro hparams hbody =>
    .intro (fun p hp e he => (hparams p hp e he).mono h) fun n hn => (hbody n hn).mono h

theorem Template.Within.mono (h : V.Le W) : {t : Template} → t.Within V → t.Within W
  | _, .intro hnodes hparent hblocks hmacros =>
    .intro (fun n hn => (hnodes n hn).mono h) (fun parent hp => (hparent parent hp).mono h)
      (fun b hb n hn => (hblocks b hb n hn).mono h) fun m hm => (hmacros m hm).mono h

end

end Wider

/-!
## The whole vocabulary

A vocabulary without limits: every tree and every value is within it.
-/

/-- The vocabulary in which everything may be mentioned. -/
def Vocabulary.whole : Vocabulary := {}

/-! ### Expressions -/

mutual

theorem Expr.within_whole : (e : Expr) → e.Within .whole
  | .literal l => .literal l
  | .array items => .array (exprs_within_whole items)
  | .path _ segments _ => .path trivial (segments_within_whole segments) trivial
  | .unary _ e _ => .unary e.within_whole trivial
  | .binary _ a b _ => .binary a.within_whole b.within_whole trivial
  | .filtered e filters => .filtered e.within_whole (filters_within_whole filters)

theorem Segment.within_whole : (segment : Segment) → segment.Within .whole
  | .attr name => .attr name
  | .index n => .index n
  | .subscript key => .subscript key.within_whole
  | .call args => .call (exprs_within_whole args)

theorem FilterCall.within_whole : (f : FilterCall) → f.Within .whole
  | .mk _ none _ _ => .mk nofun trivial
  | .mk _ (some e) _ _ => .mk (fun | _, rfl => e.within_whole) trivial

theorem exprs_within_whole : (es : List Expr) → ∀ e ∈ es, e.Within .whole
  | e :: _, _, .head _ => e.within_whole
  | _ :: es, _, .tail _ h => exprs_within_whole es _ h

theorem segments_within_whole : (segments : List Segment) → ∀ s ∈ segments, s.Within .whole
  | s :: _, _, .head _ => s.within_whole
  | _ :: segments, _, .tail _ h => segments_within_whole segments _ h

theorem filters_within_whole : (filters : List FilterCall) → ∀ f ∈ filters, f.Within .whole
  | f :: _, _, .head _ => f.within_whole
  | _ :: filters, _, .tail _ h => filters_within_whole filters _ h

end

/-! ### Templates -/

mutual

theorem Node.within_whole : (n : Node) → n.Within .whole
  | .text s => .text s
  | .output _ e => .output trivial e.within_whole
  | .tag _ _ statement => .tag trivial statement.within_whole

theorem Statement.within_whole : (statement : Statement) → statement.Within .whole
  | .branch branches otherwise =>
    .branch (fun b _ => b.1.within_whole) (branches_within_whole branches)
      (optional_within_whole otherwise)
  | .compare lhs rhs _ body otherwise =>
    .compare lhs.within_whole rhs.within_whole (nodes_within_whole body)
      (optional_within_whole otherwise)
  | .loop _ _ source _ _ body empty =>
    .loop trivial source.within_whole (nodes_within_whole body) (optional_within_whole empty)
  | .cycle values _ _ => .cycle trivial (exprs_within_whole values)
  | .firstOf values => .firstOf (exprs_within_whole values)
  | .block _ body => .block trivial (nodes_within_whole body)
  | .includes target _ _ _ _ => .includes target.within_whole fun b _ => b.2.within_whole
  | .imports macros => .imports fun m hm _ => macros_within_whole macros m hm
  | .bind _ body => .bind (fun b _ => b.2.within_whole) (nodes_within_whole body)
  | .assign _ e => .assign e.within_whole
  | .define m => .define m.within_whole
  | .escaping _ body => .escaping (nodes_within_whole body)
  | .filtering filters body => .filtering (filters_within_whole filters) (nodes_within_whole body)
  | .spaceless body => .spaceless (nodes_within_whole body)
  | .nothing => .nothing
  | .now format fake => .now format fake
  | .write text => .write text
  | .ratio value most width _ => .ratio value.within_whole most.within_whole width.within_whole
  | .custom steps => .custom (steps_within_whole steps)

theorem Step.within_whole : (step : Step) → step.Within .whole
  | .write text => .write text
  | .run body => .run (nodes_within_whole body)
  | .captured _ body => .captured (nodes_within_whole body)
  | .shown _ e => .shown e.within_whole

theorem Target.within_whole : (target : Target) → target.Within .whole
  | .linked t => .linked fun _ => t.within_whole
  | .named e => .named trivial e.within_whole

theorem Parent.within_whole : (parent : Parent) → parent.Within .whole
  | .linked t => .linked fun _ => t.within_whole
  | .named e _ => .named trivial e.within_whole trivial

theorem Macro.within_whole : (m : Macro) → m.Within .whole
  | ⟨_, _, body, _⟩ => .intro (fun _ _ e _ => e.within_whole) (nodes_within_whole body)

theorem Template.within_whole : (t : Template) → t.Within .whole
  | ⟨_, _, _, nodes, parent, blocks, macros, _, _, _⟩ =>
    .intro (nodes_within_whole nodes) (parent_within_whole parent) (bodies_within_whole blocks)
      (macros_within_whole macros)

theorem nodes_within_whole : (nodes : List Node) → ∀ n ∈ nodes, n.Within .whole
  | n :: _, _, .head _ => n.within_whole
  | _ :: nodes, _, .tail _ h => nodes_within_whole nodes _ h

theorem optional_within_whole :
    (o : Option (List Node)) → ∀ body ∈ o, ∀ n ∈ body, n.Within .whole
  | some body, _, rfl => nodes_within_whole body

theorem parent_within_whole : (o : Option Parent) → ∀ parent ∈ o, parent.Within .whole
  | some parent, _, rfl => parent.within_whole

theorem branches_within_whole :
    (branches : List (Expr × List Node)) → ∀ b ∈ branches, ∀ n ∈ b.2, n.Within .whole
  | ⟨_, body⟩ :: _, _, .head _ => nodes_within_whole body
  | _ :: branches, _, .tail _ h => branches_within_whole branches _ h

theorem steps_within_whole : (steps : List Step) → ∀ step ∈ steps, step.Within .whole
  | step :: _, _, .head _ => step.within_whole
  | _ :: steps, _, .tail _ h => steps_within_whole steps _ h

theorem bodies_within_whole :
    (blocks : List (String × List Node)) → ∀ b ∈ blocks, ∀ n ∈ b.2, n.Within .whole
  | ⟨_, body⟩ :: _, _, .head _ => nodes_within_whole body
  | _ :: blocks, _, .tail _ h => bodies_within_whole blocks _ h

theorem macros_within_whole : (macros : List (String × Macro)) → ∀ m ∈ macros, m.2.Within .whole
  | ⟨_, m⟩ :: _, _, .head _ => m.within_whole
  | _ :: macros, _, .tail _ h => macros_within_whole macros _ h

end

/-! ### Values -/

mutual

theorem Value.within_whole : (v : Value) → v.Within .whole
  | .nil => .nil
  | .bool b => .bool b
  | .int n => .int n
  | .float x => .float x
  | .str s => .str s
  | .safe s => .safe s
  | .seq items => .seq (values_within_whole items)
  | .map entries => .map (fields_within_whole entries)
  | .record ⟨_, attrs, items, _, visits, _, _⟩ =>
    .record (fields_within_whole attrs) (values_within_whole items) (visits_within_whole visits)
  | .func ⟨_, _, _, _, callback⟩ => .func callback.within_whole

theorem Callback.within_whole : (c : Callback) → c.Within .whole
  | .body m => .body m.within_whole
  | .super => .super
  | .host _ data => .host data.within_whole

theorem values_within_whole : (vs : List Value) → ∀ v ∈ vs, v.Within .whole
  | v :: _, _, .head _ => v.within_whole
  | _ :: vs, _, .tail _ h => values_within_whole vs _ h

theorem fields_within_whole : (fields : List (String × Value)) → ∀ e ∈ fields, e.2.Within .whole
  | ⟨_, v⟩ :: _, _, .head _ => v.within_whole
  | _ :: fields, _, .tail _ h => fields_within_whole fields _ h

theorem visits_within_whole :
    (visits : Option (List Value)) → ∀ vs ∈ visits, ∀ v ∈ vs, v.Within .whole
  | some vs, _, rfl => values_within_whole vs

end

theorem Error.within_whole (e : Error) : e.Within .whole := by
  cases e with
  | execution => exact fun _ _ => trivial
  | _ => trivial

theorem wide_whole : Vocabulary.whole.Wide := ⟨fun _ => trivial, fun _ => trivial, trivial, nofun⟩

end Stencil
