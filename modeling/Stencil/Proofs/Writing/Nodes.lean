import Stencil.Proofs.Writing.Expr
import Stencil.Tag

/-!
# How documents are written

A document is text, outputs, and tags with bodies. A tag is written with what it binds or tests in
front of its body and an ending tag behind it; a conditional and a loop can have more bodies, with a
tag in front of each.
-/

namespace Stencil

/-- What a writer of documents is free to choose. -/
structure Style where
  /-- Whether the tag that ends a block repeats the name of the block. -/
  namesEnd : String → Bool := fun _ => false
  /-- Whether a variable that is bound alone stands behind its value. -/
  bindsBehind : String → Bool := fun _ => false

/-- How a tag is written. -/
def writtenTag (name : String) (args : List Lexeme) : List Lexeme :=
  .symbol .openTag :: .identifier name :: (args ++ [.symbol .closeTag])

/-! ### Arguments -/

/-- Filters with bars between them. -/
def writtenChain : List FilterCall → List Lexeme
  | [] => []
  | f :: rest => f.written ++ writtenFilters rest

/-- Bindings with their values, one after the other. -/
def writtenBindings : List (String × Expr) → List Lexeme
  | [] => []
  | (name, e) :: rest =>
    .identifier name :: .symbol .equal :: (e.written .disjunction ++ writtenBindings rest)

/-- The arguments of `with`. -/
def Style.bindings (style : Style) : List (String × Expr) → List Lexeme
  | [(name, e)] =>
    if style.bindsBehind name then
      e.written .disjunction ++ [.keyword .kwAs, .identifier name]
    else writtenBindings [(name, e)]
  | bindings => writtenBindings bindings

/-- The default of a parameter, if it has one. -/
def writtenDefault : Option Expr → List Lexeme
  | none => []
  | some e => .symbol .equal :: e.written .disjunction

/-- Parameters with commas between them, and the closing parenthesis. -/
def writtenParameters : List (String × Option Expr) → List Lexeme
  | [] => [.symbol .closeParen]
  | [(name, default?)] => .identifier name :: (writtenDefault default? ++ [.symbol .closeParen])
  | (name, default?) :: rest =>
    .identifier name :: (writtenDefault default? ++ .symbol .comma :: writtenParameters rest)

/-- A word that stands there or does not. -/
def writtenIf (written : Bool) (x : Lexeme) : List Lexeme := if written then [x] else []

/-- The arguments of `for`. -/
def writtenLoop (first : String) (second : Option String) (source : Expr)
    (reversed sorted : Bool) : List Lexeme :=
  .identifier first ::
    ((match second with
      | some name => [.symbol .comma, .identifier name]
      | none => []) ++
    .keyword .kwIn :: (source.written .disjunction ++
      (writtenIf reversed (.identifier "reversed") ++ writtenIf sorted (.identifier "sorted"))))

/-! ### Documents -/

mutual

/-- How a part of a document is written. -/
def Node.written (style : Style) : Node → List Lexeme
  | .text s => [.text s]
  | .output _ e => .symbol .openOutput :: (e.written .disjunction ++ [.symbol .closeOutput])
  | .tag _ _ statement => statement.written style

/-- How a tag is written with its bodies, if it has any. -/
def Statement.written (style : Style) : Statement → List Lexeme
  | .branch branches otherwise =>
    writtenBranches style "if" branches ++
      (writtenOptional style "else" otherwise ++ writtenTag "endif" [])
  | .loop first second source reversed sorted body empty =>
    writtenTag "for" (writtenLoop first second source reversed sorted) ++
      (writtenNodes style body ++ (writtenOptional style "empty" empty ++ writtenTag "endfor" []))
  | .bind bindings body =>
    writtenTag "with" (style.bindings bindings) ++
      (writtenNodes style body ++ writtenTag "endwith" [])
  | .escaping enabled body =>
    writtenTag "autoescape" [.identifier (if enabled then "on" else "off")] ++
      (writtenNodes style body ++ writtenTag "endautoescape" [])
  | .filtering filters body =>
    writtenTag "filter" (writtenChain filters) ++
      (writtenNodes style body ++ writtenTag "endfilter" [])
  | .spaceless body =>
    writtenTag "spaceless" [] ++ (writtenNodes style body ++ writtenTag "endspaceless" [])
  | .block name body =>
    writtenTag "block" [.identifier name] ++
      (writtenNodes style body ++
        writtenTag "endblock" (writtenIf (style.namesEnd name) (.identifier name)))
  | .define ⟨name, params, body, exported⟩ =>
    writtenTag "macro" (.identifier name :: .symbol .openParen ::
        (writtenParameters params ++ writtenIf exported (.keyword .kwExport))) ++
      (writtenNodes style body ++ writtenTag "endmacro" [])
  | _ => []

/-- The parts of a document, one after the other. -/
def writtenNodes (style : Style) : List Node → List Lexeme
  | [] => []
  | n :: ns => n.written style ++ writtenNodes style ns

/-- A body that may be missing, with the tag in front of it. -/
def writtenOptional (style : Style) (name : String) : Option (List Node) → List Lexeme
  | none => []
  | some body => writtenTag name [] ++ writtenNodes style body

/-- The branches of a conditional, of which the first one is written with the given name. -/
def writtenBranches (style : Style) (name : String) : List (Expr × List Node) → List Lexeme
  | [] => []
  | (condition, body) :: rest =>
    writtenTag name (condition.written .disjunction) ++
      (writtenNodes style body ++ writtenBranches style "elif" rest)

end

/-! ### The documents that can be written -/

/-- Behind a parameter with a default all others have one. -/
def DefaultsLast (params : List (String × Option Expr)) : Prop :=
  (params.map fun p => p.2.isSome).Pairwise fun a b => a = true → b = true

instance (params : List (String × Option Expr)) : Decidable (DefaultsLast params) :=
  inferInstanceAs (Decidable (List.Pairwise _ _))

/-- Parameters as a macro can have them: no name stands twice, and those with defaults come last. -/
structure Parameters.Plain (filters : Registry FilterRef) (params : List (String × Option Expr)) :
    Prop where
  names : (params.map Prod.fst).Nodup
  order : DefaultsLast params
  defaults : ∀ p ∈ params, ∀ e ∈ p.2, e.Plain filters

mutual

/-- A text, the output of a plain expression, or a built-in tag with plain bodies. -/
inductive Node.Plain (c : Catalog) : Node → Prop where
  | text (s : String) : Node.Plain c (.text s)
  | output {p : Position} {e : Expr} (he : e.Plain c.filters) : Node.Plain c (.output p e)
  | tag {t : Tag} {p : Position} {s : Statement} (hfind : c.tags.find? t.name = some (.builtin t))
      (hallowed : c.tags.isBanned t.name = false) (hs : Statement.Plain c t s) :
      Node.Plain c (.tag t.name p s)

/-- The statement of a tag with plain bodies. -/
inductive Statement.Plain (c : Catalog) : Tag → Statement → Prop where
  | branch {branches : List (Expr × List Node)} {otherwise : Option (List Node)}
      (hne : branches ≠ []) (hconditions : ∀ b ∈ branches, b.1.Plain c.filters)
      (hbodies : ∀ b ∈ branches, ∀ n ∈ b.2, Node.Plain c n)
      (hotherwise : ∀ body ∈ otherwise, ∀ n ∈ body, Node.Plain c n) :
      Statement.Plain c .branch (.branch branches otherwise)
  | loop {first : String} {second : Option String} {source : Expr} {reversed sorted : Bool}
      {body : List Node} {empty : Option (List Node)} (hsource : source.Plain c.filters)
      (hbody : ∀ n ∈ body, Node.Plain c n) (hempty : ∀ body ∈ empty, ∀ n ∈ body, Node.Plain c n) :
      Statement.Plain c .loop (.loop first second source reversed sorted body empty)
  | bind {bindings : List (String × Expr)} {body : List Node} (hne : bindings ≠ [])
      (hbindings : ∀ b ∈ bindings, b.2.Plain c.filters) (hbody : ∀ n ∈ body, Node.Plain c n) :
      Statement.Plain c .bind (.bind bindings body)
  | escaping {enabled : Bool} {body : List Node} (hbody : ∀ n ∈ body, Node.Plain c n) :
      Statement.Plain c .autoescape (.escaping enabled body)
  | filtering {filters : List FilterCall} {body : List Node} (hne : filters ≠ [])
      (hfilters : ∀ f ∈ filters, f.Plain c.filters) (hbody : ∀ n ∈ body, Node.Plain c n) :
      Statement.Plain c .filtering (.filtering filters body)
  | spaceless {body : List Node} (hbody : ∀ n ∈ body, Node.Plain c n) :
      Statement.Plain c .spaceless (.spaceless body)
  | block {name : String} {body : List Node} (hbody : ∀ n ∈ body, Node.Plain c n) :
      Statement.Plain c .block (.block name body)
  | define {name : String} {params : List (String × Option Expr)} {body : List Node}
      {exported : Bool} (hparams : Parameters.Plain c.filters params)
      (hbody : ∀ n ∈ body, Node.Plain c n) :
      Statement.Plain c .define (.define ⟨name, params, body, exported⟩)

end

/-! ### The parts of a document -/

mutual

/-- A part of a document that stands in `k` tags, and before it all parts in it; each with the
number of tags in which it stands. -/
def Node.parts (k : Nat) : Node → List (Nat × Node)
  | .text s => [(k, .text s)]
  | .output p e => [(k, .output p e)]
  | .tag name p statement => statement.parts (k + 1) ++ [(k, .tag name p statement)]

/-- The parts in the bodies of a tag. -/
def Statement.parts (k : Nat) : Statement → List (Nat × Node)
  | .branch branches otherwise => partsOfBranches k branches ++ partsOfOptional k otherwise
  | .loop _ _ _ _ _ body empty => partsOf k body ++ partsOfOptional k empty
  | .bind _ body | .escaping _ body | .filtering _ body | .spaceless body | .block _ body
  | .define ⟨_, _, body, _⟩ => partsOf k body
  | _ => []

/-- All parts of the nodes that stand in `k` tags, in the order in which they end. -/
def partsOf (k : Nat) : List Node → List (Nat × Node)
  | [] => []
  | n :: ns => n.parts k ++ partsOf k ns

/-- The parts of a body that may be missing. -/
def partsOfOptional (k : Nat) : Option (List Node) → List (Nat × Node)
  | none => []
  | some body => partsOf k body

/-- The parts in the branches of a conditional. -/
def partsOfBranches (k : Nat) : List (Expr × List Node) → List (Nat × Node)
  | [] => []
  | (_, body) :: rest => partsOf k body ++ partsOfBranches k rest

end

/-- Whether the part is a tag. -/
def Node.isTag : Node → Bool
  | .tag .. => true
  | _ => false

/-- The block that a part is. -/
def Node.block? : Node → Option (String × Body)
  | .tag _ _ (.block name body) => some (name, body)
  | _ => none

/-- The exported macro that a part is. -/
def Node.export? : Node → Option (String × Macro)
  | .tag _ _ (.define m) => if m.exported then some (m.name, m) else none
  | _ => none

/-- The blocks among the parts of a document. -/
def blocksAmong (parts : List (Nat × Node)) : Table Body := parts.filterMap fun p => p.2.block?

/-- The exported macros among the parts of a document. -/
def exportsAmong (parts : List (Nat × Node)) : Table Macro := parts.filterMap fun p => p.2.export?

/-- How deep the expressions nest that stand in a part itself. -/
def Node.depth : Node → Nat
  | .output _ e => e.depth
  | .tag _ _ (.branch branches _) => (branches.map fun b => b.1.depth).foldr max 0
  | .tag _ _ (.loop _ _ source _ _ _ _) => source.depth
  | .tag _ _ (.bind bindings _) => (bindings.map fun b => b.2.depth).foldr max 0
  | .tag _ _ (.filtering filters _) => depthFilters filters
  | .tag _ _ (.define m) => (m.params.map fun p => (p.2.map Expr.depth).getD 0).foldr max 0
  | _ => 0

/-! ### Positions -/

/-- The parameters with no positions in their defaults. -/
def unplacedParameters (params : List (String × Option Expr)) : List (String × Option Expr) :=
  params.map fun p => (p.1, p.2.map Expr.unplaced)

/-- The bindings with no positions in their values. -/
def unplacedBindings (bindings : List (String × Expr)) : List (String × Expr) :=
  bindings.map fun b => (b.1, b.2.unplaced)

mutual

/-- The part of a document with no positions in it. Tags without a body are no concern here and stay
as they are. -/
def Node.unplaced : Node → Node
  | .text s => .text s
  | .output _ e => .output default e.unplaced
  | .tag name _ statement => .tag name default statement.unplaced

/-- The statement with no positions in its expressions and bodies. -/
def Statement.unplaced : Statement → Statement
  | .branch branches otherwise => .branch (unplacedBranches branches) (unplacedOptional otherwise)
  | .loop first second source reversed sorted body empty =>
    .loop first second source.unplaced reversed sorted (unplacedNodes body) (unplacedOptional empty)
  | .bind bindings body => .bind (unplacedBindings bindings) (unplacedNodes body)
  | .escaping enabled body => .escaping enabled (unplacedNodes body)
  | .filtering filters body => .filtering (unplacedFilters filters) (unplacedNodes body)
  | .spaceless body => .spaceless (unplacedNodes body)
  | .block name body => .block name (unplacedNodes body)
  | .define ⟨name, params, body, exported⟩ =>
    .define ⟨name, unplacedParameters params, unplacedNodes body, exported⟩
  | s => s

/-- The nodes without positions. -/
def unplacedNodes : List Node → List Node
  | [] => []
  | n :: ns => n.unplaced :: unplacedNodes ns

/-- The body that may be missing, without positions. -/
def unplacedOptional : Option (List Node) → Option (List Node)
  | none => none
  | some body => some (unplacedNodes body)

/-- The branches without positions. -/
def unplacedBranches : List (Expr × List Node) → List (Expr × List Node)
  | [] => []
  | (condition, body) :: rest => (condition.unplaced, unplacedNodes body) :: unplacedBranches rest

end

theorem unplacedNodes_eq (ns : List Node) : unplacedNodes ns = ns.map Node.unplaced := by
  induction ns with
  | nil => rfl
  | cons n ns ih => rw [unplacedNodes, ih, List.map_cons]

/-- The macro with no positions in it. -/
def Macro.unplaced (m : Macro) : Macro :=
  { m with params := unplacedParameters m.params, body := unplacedNodes m.body }

/-!
## The lexemes of expressions

An expression is written inside of a tag, so none of its lexemes opens or closes one. None is the
sign between a name and its value either, which is how the words of a tag are told from a value.
-/

section Lexemes

/-- The lexeme can stand in an expression. -/
def Lexeme.Inner : Lexeme → Prop
  | .text _ | .symbol .openOutput | .symbol .closeOutput | .symbol .openTag | .symbol .closeTag
  | .symbol .equal => False
  | _ => True

variable {ls : List Lexeme} {l own : Level}

theorem inner_bracketed (h : ∀ x ∈ ls, x.Inner) : ∀ x ∈ bracketed l own ls, x.Inner := by
  unfold bracketed
  split
  · simp only [List.forall_mem_cons, List.forall_mem_append]
    exact ⟨trivial, h, trivial, nofun⟩
  · exact h

theorem inner_ofWord (s : List Char) : (Token.ofWord s).Inner := by
  unfold Token.ofWord
  split <;> trivial

theorem inner_literal (v : Literal) : ∀ x ∈ v.written, x.Inner := by
  cases v with
  | bool b => cases b <;> exact List.forall_mem_singleton.mpr trivial
  | int n => exact List.forall_mem_singleton.mpr trivial
  | float x => nofun
  | string s => exact List.forall_mem_singleton.mpr trivial

theorem BinaryOp.inner_written (op : BinaryOp) : ∀ x ∈ op.written, x.Inner := by
  cases op with
  | notIn => exact List.forall_mem_cons.mpr ⟨trivial, List.forall_mem_singleton.mpr trivial⟩
  | _ => exact List.forall_mem_singleton.mpr trivial

mutual

theorem inner_bare : (e : Expr) → ∀ x ∈ e.bare, x.Inner
  | .literal v => inner_literal v
  | .array items => by
    have hitems := inner_items items
    simp only [Expr.bare, List.forall_mem_cons, List.forall_mem_append]
    exact ⟨trivial, hitems, trivial, nofun⟩
  | .path _ segments _ => List.forall_mem_cons.mpr ⟨trivial, inner_segments segments⟩
  | .unary op e _ => by
    have hop : op.written.Inner := by cases op <;> trivial
    exact List.forall_mem_cons.mpr ⟨hop, inner_bracketed (inner_bare e)⟩
  | .binary op a b _ => by
    have ha := inner_bare a
    have hb := inner_bare b
    simp only [Expr.bare, List.forall_mem_append]
    exact ⟨inner_bracketed ha, op.inner_written, inner_bracketed hb⟩
  | .filtered e filters =>
    List.forall_mem_append.mpr ⟨inner_bracketed (inner_bare e), inner_filters filters⟩

theorem inner_segment : (s : Segment) → ∀ x ∈ s.written, x.Inner
  | .attr name =>
    List.forall_mem_cons.mpr ⟨trivial, List.forall_mem_singleton.mpr (inner_ofWord name.toList)⟩
  | .index _ => List.forall_mem_cons.mpr ⟨trivial, List.forall_mem_singleton.mpr trivial⟩
  | .subscript key => by
    have hkey := inner_bare key
    simp only [Segment.written, List.forall_mem_cons, List.forall_mem_append]
    exact ⟨trivial, hkey, trivial, nofun⟩
  | .call args => by
    have hargs := inner_items args
    simp only [Segment.written, List.forall_mem_cons, List.forall_mem_append]
    exact ⟨trivial, hargs, trivial, nofun⟩

theorem inner_filterCall : (f : FilterCall) → ∀ x ∈ f.written, x.Inner
  | .mk _ none _ _ => List.forall_mem_singleton.mpr trivial
  | .mk _ (some e) _ _ => by
    have he := inner_bare e
    simp only [FilterCall.written, List.forall_mem_cons]
    exact ⟨trivial, trivial, inner_bracketed he⟩

theorem inner_items : (items : List Expr) → ∀ x ∈ writtenItems items, x.Inner
  | [] => nofun
  | e :: es => List.forall_mem_append.mpr ⟨inner_bare e, inner_more es⟩

theorem inner_more : (items : List Expr) → ∀ x ∈ writtenMore items, x.Inner
  | [] => nofun
  | e :: es => by
    have he := inner_bare e
    have hes := inner_more es
    simp only [writtenMore, List.forall_mem_cons, List.forall_mem_append]
    exact ⟨trivial, he, hes⟩

theorem inner_segments : (segments : List Segment) → ∀ x ∈ writtenSegments segments, x.Inner
  | [] => nofun
  | s :: rest => List.forall_mem_append.mpr ⟨inner_segment s, inner_segments rest⟩

theorem inner_filters : (filters : List FilterCall) → ∀ x ∈ writtenFilters filters, x.Inner
  | [] => nofun
  | f :: rest => by
    have hf := inner_filterCall f
    have hrest := inner_filters rest
    simp only [writtenFilters, List.forall_mem_cons, List.forall_mem_append]
    exact ⟨trivial, hf, hrest⟩

end

theorem inner_written (e : Expr) (l : Level) : ∀ x ∈ e.written l, x.Inner :=
  inner_bracketed (inner_bare e)

/-! ### The arguments of tags -/

/-- The lexeme closes no tag. -/
def Lexeme.Open : Lexeme → Prop
  | .symbol s => s.closes = false
  | _ => True

theorem Lexeme.Inner.isOpen {x : Lexeme} (h : x.Inner) : x.Open := by
  cases x with
  | symbol s => cases s <;> first | rfl | exact h.elim
  | _ => trivial

theorem open_written (e : Expr) (l : Level) : ∀ x ∈ e.written l, x.Open :=
  fun x hx => (inner_written e l x hx).isOpen

theorem open_filters (filters : List FilterCall) : ∀ x ∈ writtenFilters filters, x.Open :=
  fun x hx => (inner_filters filters x hx).isOpen

theorem open_chain (filters : List FilterCall) : ∀ x ∈ writtenChain filters, x.Open := by
  cases filters with
  | nil => exact nofun
  | cons f rest =>
    exact List.forall_mem_append.mpr
      ⟨fun x hx => (inner_filterCall f x hx).isOpen, open_filters rest⟩

theorem open_writtenBindings (bindings : List (String × Expr)) :
    ∀ x ∈ writtenBindings bindings, x.Open := by
  induction bindings with
  | nil => exact nofun
  | cons b rest ih =>
    have hvalue := open_written b.2 .disjunction
    simp only [writtenBindings, List.forall_mem_cons, List.forall_mem_append]
    exact ⟨trivial, rfl, hvalue, ih⟩

theorem open_bindings (style : Style) (bindings : List (String × Expr)) :
    ∀ x ∈ style.bindings bindings, x.Open := by
  unfold Style.bindings
  split
  · rename_i name e
    have hvalue := open_written e .disjunction
    split
    · simp only [List.forall_mem_append, List.forall_mem_cons]
      exact ⟨hvalue, trivial, trivial, nofun⟩
    · exact open_writtenBindings _
  · exact open_writtenBindings _

theorem open_writtenIf {x : Lexeme} (hx : x.Open) (written : Bool) :
    ∀ y ∈ writtenIf written x, y.Open := by
  cases written
  · exact nofun
  · exact List.forall_mem_singleton.mpr hx

theorem open_parameters (params : List (String × Option Expr)) :
    ∀ x ∈ writtenParameters params, x.Open := by
  have hdefault (default? : Option Expr) : ∀ x ∈ writtenDefault default?, x.Open := by
    cases default? with
    | none => exact nofun
    | some e => exact List.forall_mem_cons.mpr ⟨rfl, open_written e _⟩
  induction params with
  | nil => exact List.forall_mem_singleton.mpr rfl
  | cons p rest ih =>
    cases rest with
    | nil =>
      simp only [writtenParameters, List.forall_mem_cons, List.forall_mem_append]
      exact ⟨trivial, hdefault p.2, rfl, nofun⟩
    | cons q rest =>
      simp only [writtenParameters, List.forall_mem_cons, List.forall_mem_append]
      exact ⟨trivial, hdefault p.2, rfl, ih⟩

theorem Token.closes_eq_false {t : Token} (h : t.lexeme.Open) : t.closes = false := by
  unfold Token.closes
  split
  · rename_i s hs
    rw [hs] at h
    exact h
  · rfl

end Lexemes

end Stencil
