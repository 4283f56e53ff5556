import Stencil.Expr
import Stencil.Token

/-!
# Templates

A compiled template is a tree of nodes, together with what other templates need of it: its parent,
its blocks and the macros it exports.  Templates that are named by a literal are compiled along with
the template that names them and stand inside its tree.
-/

namespace Stencil

/-- The settings of the set that a template keeps from its compilation. -/
structure RenderOptions where
  autoescape : Bool := true
  /-- How deep includes and macro calls may nest, and how long an inheritance chain may be. -/
  recursionLimit : Nat := 100
deriving DecidableEq, Inhabited

mutual

/-- A part of a template: text, the output of an expression, or a tag. -/
inductive Node where
  | text (s : String)
  | output (position : Position) (e : Expr)
  | tag (name : String) (position : Position) (statement : Statement)

/-- What a tag does. -/
inductive Statement where
  /-- Runs the body of the first branch whose condition holds. -/
  | branch (branches : List (Expr × List Node)) (otherwise : Option (List Node))
  | compare (lhs rhs : Expr) (negated : Bool) (body : List Node) (otherwise : Option (List Node))
  /-- Runs the body for each item; with a second variable the first one counts or is the key. -/
  | loop (first : String) (second : Option String) (source : Expr) (reversed sorted : Bool)
      (body : List Node) (empty : Option (List Node))
  | cycle (values : List Expr) (target : Option String) (silent : Bool)
  | firstOf (values : List Expr)
  | block (name : String) (body : List Node)
  | includes (target : Target) (base : String) (bindings : List (String × Expr))
      (only ifExists : Bool)
  /-- Binds imported macros to the names given here. -/
  | imports (macros : List (String × Macro))
  | bind (bindings : List (String × Expr)) (body : List Node)
  | assign (name : String) (value : Expr)
  | define (m : Macro)
  | escaping (enabled : Bool) (body : List Node)
  | filtering (filters : List FilterCall) (body : List Node)
  | spaceless (body : List Node)
  /-- Does nothing: a comment, or the mark of a parent. -/
  | nothing
  | now (format : String) (fake : Bool)
  | write (text : String)
  | ratio (value most width : Expr) (target : Option String)
  /-- A tag of the host. -/
  | custom (steps : List Step)

/-- A step of a tag of the host; keys name what the host does. -/
inductive Step where
  | write (text : String)
  | run (body : List Node)
  /-- Renders a body and lets the host say what is written for the text or the error. -/
  | captured (key : String) (body : List Node)
  /-- Evaluates an expression and lets the host say what is written for it. -/
  | shown (key : String) (value : Expr)

/-- The template that an include names. -/
inductive Target where
  | linked (t : Template)
  | named (name : Expr)

/-- The template that a template extends. -/
inductive Parent where
  | linked (t : Template)
  | named (name : Expr) (position : Position)

/-- A macro: parameters, some with a default, and a body. -/
structure Macro where
  name : String
  params : List (String × Option Expr)
  body : List Node
  exported : Bool

/-- A compiled template. -/
structure Template where
  name : String
  source : String
  tokens : List Token
  nodes : List Node
  parent : Option Parent
  /-- The blocks by name. -/
  blocks : List (String × List Node)
  /-- The exported macros by name. -/
  macros : List (String × Macro)
  /-- How many ancestors are known without a render. -/
  level : Nat
  options : RenderOptions
  /-- The number of the compilation that produced the template. -/
  serial : Nat

end

/-- The body of a block or of a macro. -/
abbrev Body := List Node

namespace Template

/-- The body of the block `name`. -/
def block? (t : Template) (name : String) : Option Body := t.blocks.lookup name

/-- The exported macro `name`. -/
def macro? (t : Template) (name : String) : Option Macro := t.macros.lookup name

/-- The names of the blocks in rising order. -/
def blockNames (t : Template) : List String := (t.blocks.map (·.1)).mergeSort (· ≤ ·)

end Template

end Stencil
