import Stencil.Filter.Kind
import Stencil.Position

/-!
# Expressions

The trees that stand in tags: literals, lists, variables with a path behind them, operators and
filters.  What can fail when it is evaluated carries the position to report.
-/

namespace Stencil

/-- The operators with one operand. -/
inductive UnaryOp where
  | plus | minus | negation
deriving DecidableEq, Inhabited

/-- The operators with two operands. -/
inductive BinaryOp where
  | or | and
  | eq | ne | lt | le | gt | ge | isIn | notIn
  | add | sub | mul | div | mod
  | pow
deriving DecidableEq, Inhabited

/-- The constants of the language. -/
inductive Literal where
  | bool (b : Bool)
  | int (n : Int)
  | float (x : Float)
  | string (s : String)
deriving Inhabited

mutual

/-- An expression. -/
inductive Expr where
  | literal (value : Literal)
  | array (items : List Expr)
  /-- A variable and the steps that lead from it to a value. -/
  | path (name : String) (segments : List Segment) (position : Position)
  | unary (op : UnaryOp) (operand : Expr) (position : Position)
  | binary (op : BinaryOp) (lhs rhs : Expr) (position : Position)
  | filtered (expr : Expr) (filters : List FilterCall)

/-- One step of a path. -/
inductive Segment where
  | attr (name : String)
  | index (n : Int)
  | subscript (key : Expr)
  | call (args : List Expr)

/-- A filter, already looked up, with its argument. -/
inductive FilterCall where
  | mk (name : String) (arg : Option Expr) (position : Position) (filter : FilterRef)

end

namespace Expr

instance : Inhabited Expr := ⟨literal default⟩

/-- The text of an expression that is a string literal. -/
def literalString? : Expr → Option String
  | literal (.string s) => some s
  | _ => none

end Expr

end Stencil
