import Stencil.Expr
import Stencil.Integer
import Stencil.Registry
import Stencil.Token.Scan

/-!
# How expressions are written

Operators bind more or less tightly, and an operand stands in brackets only where it binds less
tightly than its place asks for. The loosest are `or` and `and`, then comes one comparison or
membership test, then `+` and `-`, then `*`, `/` and `%`, then `^`, which groups to the right, then
the unary operators, then an operand with its filters, and then an operand alone.
-/

namespace Stencil

/-- How tightly the parts of an expression hold together. -/
inductive Level where
  | disjunction | conjunction | relation | sum | product | power | unary | filtered | operand
deriving DecidableEq

namespace Level

/-- The levels are counted from the loosest one. -/
def rank : Level → Nat
  | disjunction => 0
  | conjunction => 1
  | relation => 2
  | sum => 3
  | product => 4
  | power => 5
  | unary => 6
  | filtered => 7
  | operand => 8

instance : LT Level := ⟨fun l k => l.rank < k.rank⟩

instance : LE Level := ⟨fun l k => l.rank ≤ k.rank⟩

instance (l k : Level) : Decidable (l < k) := inferInstanceAs (Decidable (l.rank < k.rank))

instance (l k : Level) : Decidable (l ≤ k) := inferInstanceAs (Decidable (l.rank ≤ k.rank))

theorem lt_iff {l k : Level} : l < k ↔ l.rank < k.rank := Iff.rfl

theorem le_iff {l k : Level} : l ≤ k ↔ l.rank ≤ k.rank := Iff.rfl

/-- The next tighter level. -/
def next : Level → Level
  | disjunction => conjunction
  | conjunction => relation
  | relation => sum
  | sum => product
  | product => power
  | power => unary
  | unary => filtered
  | filtered | operand => operand

/-- The level of what stands to the left of an operator of the level `l`. Comparisons do not
chain, and the base of a power is no power. -/
def left : Level → Level
  | relation => sum
  | power => unary
  | l => l

/-- The level of what stands to the right of an operator of the level `l`. Only powers group to the
right. -/
def right : Level → Level
  | power => power
  | l => l.next

/-- The operators of the level group to the left. -/
def Chains : Level → Prop
  | disjunction | conjunction | sum | product => True
  | _ => False

end Level

/-! ## Operators and constants -/

/-- The level of the expressions that an operator forms. -/
def BinaryOp.level : BinaryOp → Level
  | .or => .disjunction
  | .and => .conjunction
  | .eq | .ne | .lt | .le | .gt | .ge | .isIn | .notIn => .relation
  | .add | .sub => .sum
  | .mul | .div | .mod => .product
  | .pow => .power

/-- How an operator between its operands is written. -/
def BinaryOp.written : BinaryOp → List Lexeme
  | .or => [.keyword .kwOr]
  | .and => [.keyword .kwAnd]
  | .eq => [.symbol .equalEqual]
  | .ne => [.symbol .bangEqual]
  | .lt => [.symbol .less]
  | .le => [.symbol .lessEqual]
  | .gt => [.symbol .greater]
  | .ge => [.symbol .greaterEqual]
  | .isIn => [.keyword .kwIn]
  | .notIn => [.keyword .kwNot, .keyword .kwIn]
  | .add => [.symbol .plus]
  | .sub => [.symbol .minus]
  | .mul => [.symbol .star]
  | .div => [.symbol .slash]
  | .mod => [.symbol .percent]
  | .pow => [.symbol .caret]

/-- How an operator in front of its operand is written. -/
def UnaryOp.written : UnaryOp → Lexeme
  | .plus => .symbol .plus
  | .minus => .symbol .minus
  | .negation => .keyword .kwNot

/-- How a number without a sign is written. -/
def Integer.written (n : Int) : Lexeme := .number n.toNat.repr

/-- The integers that are written without an operator: those of 64 bits that are not negative. -/
def Integer.Plain (n : Int) : Prop := 0 ≤ n ∧ n ≤ greatest

instance (n : Int) : Decidable (Integer.Plain n) :=
  inferInstanceAs (Decidable (0 ≤ n ∧ n ≤ Integer.greatest))

/-- How a constant is written. A decimal fraction is three tokens, and there is no telling which
ones from its value. -/
def Literal.written : Literal → List Lexeme
  | .bool true => [.keyword .kwTrue]
  | .bool false => [.keyword .kwFalse]
  | .int n => [Integer.written n]
  | .float _ => []
  | .string s => [.string s]

/-- The constants that are written as one token. -/
inductive Literal.Plain : Literal → Prop where
  | bool (b : Bool) : Literal.Plain (.bool b)
  | int {n : Int} (hn : Integer.Plain n) : Literal.Plain (.int n)
  | string (s : String) : Literal.Plain (.string s)

/-! ## Expressions -/

/-- The level at which an expression holds together. -/
def Expr.level : Expr → Level
  | .unary .. => .unary
  | .binary op .. => op.level
  | .filtered .. => .filtered
  | .literal _ | .array _ | .path .. => .operand

/-- What is written where the level `l` is asked for, if `ls` holds together at the level `own`. -/
def bracketed (l own : Level) (ls : List Lexeme) : List Lexeme :=
  if own < l then .symbol .openParen :: (ls ++ [.symbol .closeParen]) else ls

mutual

/-- How an expression is written without brackets around it. -/
def Expr.bare : Expr → List Lexeme
  | .literal v => v.written
  | .array items => .symbol .openBracket :: (writtenItems items ++ [.symbol .closeBracket])
  | .path name segments _ => .identifier name :: writtenSegments segments
  | .unary op e _ => op.written :: bracketed .unary e.level e.bare
  | .binary op a b _ =>
    bracketed op.level.left a.level a.bare ++
      (op.written ++ bracketed op.level.right b.level b.bare)
  | .filtered e filters => bracketed .operand e.level e.bare ++ writtenFilters filters

/-- How a step of a path is written. A keyword can name a member. -/
def Segment.written : Segment → List Lexeme
  | .attr name => [.symbol .dot, Token.ofWord name.toList]
  | .index n => [.symbol .dot, Integer.written n]
  | .subscript key => .symbol .openBracket :: (key.bare ++ [.symbol .closeBracket])
  | .call args => .symbol .openParen :: (writtenItems args ++ [.symbol .closeParen])

/-- How a filter with its argument is written. -/
def FilterCall.written : FilterCall → List Lexeme
  | .mk name none _ _ => [.identifier name]
  | .mk name (some e) _ _ =>
    .identifier name :: .symbol .colon :: bracketed .operand e.level e.bare

/-- Expressions with commas between them. -/
def writtenItems : List Expr → List Lexeme
  | [] => []
  | e :: es => e.bare ++ writtenMore es

/-- Expressions with a comma in front of each. -/
def writtenMore : List Expr → List Lexeme
  | [] => []
  | e :: es => .symbol .comma :: (e.bare ++ writtenMore es)

/-- The steps of a path, one after the other. -/
def writtenSegments : List Segment → List Lexeme
  | [] => []
  | s :: rest => s.written ++ writtenSegments rest

/-- Filters with a bar in front of each. -/
def writtenFilters : List FilterCall → List Lexeme
  | [] => []
  | f :: rest => .symbol .bar :: (f.written ++ writtenFilters rest)

end

/-- How an expression is written where the level `l` is asked for. -/
def Expr.written (l : Level) (e : Expr) : List Lexeme := bracketed l e.level e.bare

/-! ## The expressions that can be written -/

mutual

/-- An expression of plain constants and of filters that are registered and not banned. -/
inductive Expr.Plain (filters : Registry FilterRef) : Expr → Prop where
  | literal {v : Literal} (hv : v.Plain) : Expr.Plain filters (.literal v)
  | array {items : List Expr} (hitems : ∀ e ∈ items, Expr.Plain filters e) :
      Expr.Plain filters (.array items)
  | path {name : String} {segments : List Segment} {p : Position}
      (hsegments : ∀ s ∈ segments, Segment.Plain filters s) :
      Expr.Plain filters (.path name segments p)
  | unary {op : UnaryOp} {e : Expr} {p : Position} (he : Expr.Plain filters e) :
      Expr.Plain filters (.unary op e p)
  | binary {op : BinaryOp} {a b : Expr} {p : Position} (ha : Expr.Plain filters a)
      (hb : Expr.Plain filters b) : Expr.Plain filters (.binary op a b p)
  | filtered {e : Expr} {calls : List FilterCall} (he : Expr.Plain filters e) (hne : calls ≠ [])
      (hcalls : ∀ f ∈ calls, FilterCall.Plain filters f) : Expr.Plain filters (.filtered e calls)

/-- A step of a path whose expressions are plain. -/
inductive Segment.Plain (filters : Registry FilterRef) : Segment → Prop where
  | attr (name : String) : Segment.Plain filters (.attr name)
  | index {n : Int} (hn : Integer.Plain n) : Segment.Plain filters (.index n)
  | subscript {key : Expr} (hkey : Expr.Plain filters key) : Segment.Plain filters (.subscript key)
  | call {args : List Expr} (hargs : ∀ e ∈ args, Expr.Plain filters e) :
      Segment.Plain filters (.call args)

/-- A registered filter that is not banned, with a plain argument if it has one. -/
inductive FilterCall.Plain (filters : Registry FilterRef) : FilterCall → Prop where
  | mk {name : String} {arg : Option Expr} {p : Position} {f : FilterRef}
      (hallowed : filters.isBanned name = false) (hf : filters.find? name = some f)
      (harg : ∀ e ∈ arg, Expr.Plain filters e) : FilterCall.Plain filters (.mk name arg p f)

end

/-! ## Nesting -/

/-- How deep a reader goes for what is written where the level `l` is asked for. Brackets count
twice. -/
def bracketedDepth (l own : Level) (depth : Nat) : Nat := if own < l then depth + 2 else depth

mutual

/-- How deep the expression nests, without brackets around it. -/
def Expr.depth : Expr → Nat
  | .literal _ => 0
  | .array items => depthItems items
  | .path _ segments _ => depthSegments segments
  | .unary _ e _ => bracketedDepth .unary e.level e.depth + 1
  | .binary op a b _ =>
    max (bracketedDepth op.level.left a.level a.depth)
      (bracketedDepth op.level.right b.level b.depth + if op = .pow then 1 else 0)
  | .filtered e filters =>
    max (bracketedDepth .operand e.level e.depth) (depthFilters filters)

/-- How deep the expressions of a step nest. -/
def Segment.depth : Segment → Nat
  | .attr _ | .index _ => 0
  | .subscript key => key.depth + 2
  | .call args => depthItems args

/-- How deep the argument of a filter nests. -/
def FilterCall.depth : FilterCall → Nat
  | .mk _ none _ _ => 0
  | .mk _ (some e) _ _ => bracketedDepth .operand e.level e.depth + 1

/-- How deep the items of a list nest. -/
def depthItems : List Expr → Nat
  | [] => 0
  | e :: es => max (e.depth + 2) (depthItems es)

/-- How deep the steps of a path nest. -/
def depthSegments : List Segment → Nat
  | [] => 0
  | s :: rest => max s.depth (depthSegments rest)

/-- How deep the arguments of filters nest. -/
def depthFilters : List FilterCall → Nat
  | [] => 0
  | f :: rest => max f.depth (depthFilters rest)

end

/-! ## Positions -/

mutual

/-- The expression with no positions in it. -/
def Expr.unplaced : Expr → Expr
  | .literal v => .literal v
  | .array items => .array (unplacedItems items)
  | .path name segments _ => .path name (unplacedSegments segments) default
  | .unary op e _ => .unary op e.unplaced default
  | .binary op a b _ => .binary op a.unplaced b.unplaced default
  | .filtered e filters => .filtered e.unplaced (unplacedFilters filters)

/-- The step with no positions in it. -/
def Segment.unplaced : Segment → Segment
  | .attr name => .attr name
  | .index n => .index n
  | .subscript key => .subscript key.unplaced
  | .call args => .call (unplacedItems args)

/-- The filter with no positions in it. -/
def FilterCall.unplaced : FilterCall → FilterCall
  | .mk name none _ f => .mk name none default f
  | .mk name (some e) _ f => .mk name (some e.unplaced) default f

/-- The expressions without positions. -/
def unplacedItems : List Expr → List Expr
  | [] => []
  | e :: es => e.unplaced :: unplacedItems es

/-- The steps without positions. -/
def unplacedSegments : List Segment → List Segment
  | [] => []
  | s :: rest => s.unplaced :: unplacedSegments rest

/-- The filters without positions. -/
def unplacedFilters : List FilterCall → List FilterCall
  | [] => []
  | f :: rest => f.unplaced :: unplacedFilters rest

end

end Stencil
