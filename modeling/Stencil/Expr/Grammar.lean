import Stencil.Arguments
import Stencil.Decimal.Reading

/-!
# The grammar of expressions

From the loosest to the tightest: `or`; `and`; one comparison or membership test; `+` and `-`; `*`,
`/` and `%`; `^`, which groups to the right; the unary operators; an operand with its filters.
Wherever an expression stands inside another one the nesting is counted, and the grammar is built
one level of nesting at a time: `Inner` holds what a level may use from the level inside it.
-/

namespace Stencil.Grammar

open Arguments

/-- What the productions of one level find one level further in. -/
structure Inner where
  /-- A whole expression. -/
  expression : Arguments Expr
  /-- A whole expression in brackets of its own, which count once more. -/
  group : Arguments Expr
  /-- The right side of a power. -/
  power : Arguments Expr
  /-- The operand of a unary operator. -/
  unary : Arguments Expr
  /-- An operand without filters, the argument of a filter. -/
  operand : Arguments Expr

/-! ## Operators -/

/-- The operator of a disjunction. -/
def orOp? : Lexeme → Option BinaryOp
  | .keyword .kwOr | .symbol .orOr => some .or
  | _ => none

/-- The operator of a conjunction. -/
def andOp? : Lexeme → Option BinaryOp
  | .keyword .kwAnd | .symbol .andAnd => some .and
  | _ => none

/-- The operator of a comparison or membership test. -/
def relationalOp? : Lexeme → Option BinaryOp
  | .symbol .equalEqual => some .eq
  | .symbol .bangEqual | .symbol .lessGreater => some .ne
  | .symbol .less => some .lt
  | .symbol .lessEqual => some .le
  | .symbol .greater => some .gt
  | .symbol .greaterEqual => some .ge
  | .keyword .kwIn => some .isIn
  | _ => none

/-- The operator of a sum. -/
def additiveOp? : Lexeme → Option BinaryOp
  | .symbol .plus => some .add
  | .symbol .minus => some .sub
  | _ => none

/-- The operator of a product. -/
def multiplicativeOp? : Lexeme → Option BinaryOp
  | .symbol .star => some .mul
  | .symbol .slash => some .div
  | .symbol .percent => some .mod
  | _ => none

/-- The operator in front of an operand. -/
def unaryOp? : Lexeme → Option UnaryOp
  | .symbol .minus => some .minus
  | .symbol .plus => some .plus
  | .symbol .bang | .keyword .kwNot => some .negation
  | _ => none

/-- Goes on with operators and operands behind `lhs`, grouping to the left.  The number bounds the
operators that can follow. -/
def chain (op? : Lexeme → Option BinaryOp) (next : Arguments Expr) : Nat → Expr → Arguments Expr
  | 0, lhs => pure lhs
  | n + 1, lhs => do
    match ← takeIf op? with
    | none => pure lhs
    | some (op, t) =>
      let rhs ← next
      chain op? next n (.binary op lhs rhs t.position)

/-- Operands with operators between them, grouped to the left. -/
def leftAssoc (op? : Lexeme → Option BinaryOp) (next : Arguments Expr) : Arguments Expr := do
  let lhs ← next
  chain op? next (← left) lhs

/-! ## Operands -/

/-- Items with commas between them up to the closing symbol.  The number bounds the items. -/
def listRest (item : Arguments Expr) (close : Symbol) : Nat → Arguments (List Expr)
  | 0 => do
    let a ← item
    let _ ← symbol close
    pure [a]
  | n + 1 => do
    let a ← item
    match ← symbol? .comma with
    | some _ => return a :: (← listRest item close n)
    | none =>
      let _ ← symbol close
      pure [a]

/-- A possibly empty list up to the closing symbol. -/
def listUpTo (i : Inner) (close : Symbol) : Arguments (List Expr) := do
  match ← symbol? close with
  | some _ => pure []
  | none => listRest i.group close (← left)

/-- The number that starts with the digits of the token `t`: a decimal fraction if a point and
digits follow, and an integer otherwise. -/
def number (ds : String) (t : Token) : Arguments Expr := do
  let fraction? :=
    match ← peek?, ← peekSecond? with
    | some point, some second =>
      match point.lexeme, second.lexeme with
      | .symbol .dot, .number fs => some fs
      | _, _ => none
    | _, _ => none
  match fraction? with
  | some fs =>
    skip 2
    let n := Integer.ofDigits (ds.toList ++ fs.toList)
    pure (.literal (.float (Decimal.ofScientific n (-(fs.length : Int)))))
  | none =>
    match Integer.read? ds.toList with
    | some n => pure (.literal (.int n))
    | none => refuse t (.integerRange ds)

/-- The step of a path that a point starts. -/
def memberStep : Arguments Segment := do
  match ← peekSecond? with
  | some t =>
    match t.lexeme with
    | .identifier name => skip 2; pure (.attr name)
    | .keyword k => skip 2; pure (.attr k.spelling)
    | .number ds =>
      match Integer.read? ds.toList with
      | some n => skip 2; pure (.index n)
      | none => refuse t (.indexRange ds)
    | _ => skip 1; want .nameOrIndex
  | none => skip 1; want .nameOrIndex

/-- The steps of a path.  The number bounds them. -/
def steps (i : Inner) : Nat → Arguments (List Segment)
  | 0 => pure []
  | n + 1 => do
    match (← peek?).map Token.lexeme with
    | some (.symbol .dot) =>
      let step ← memberStep
      return step :: (← steps i n)
    | some (.symbol .openBracket) =>
      skip 1
      let key ← i.group
      let _ ← symbol .closeBracket
      return .subscript key :: (← steps i n)
    | some (.symbol .openParen) =>
      skip 1
      let args ← listUpTo i .closeParen
      return .call args :: (← steps i n)
    | _ => pure []

/-- An operand without filters. -/
def operand (i : Inner) : Arguments Expr := do
  match ← peek? with
  | none => want .expression
  | some t =>
    match t.lexeme with
    | .symbol .openParen =>
      skip 1
      let e ← i.group
      let _ ← symbol .closeParen
      pure e
    | .symbol .openBracket =>
      skip 1
      return .array (← listUpTo i .closeBracket)
    | .number ds => skip 1; number ds t
    | .string s => skip 1; pure (.literal (.string s))
    | .keyword .kwTrue => skip 1; pure (.literal (.bool true))
    | .keyword .kwFalse => skip 1; pure (.literal (.bool false))
    | .identifier name =>
      skip 1
      return .path name (← steps i (← left)) t.position
    | _ => refuse t (.unexpectedInExpression t)

/-! ## Filters -/

/-- A filter with its argument.  The filter must be registered and must not be banned. -/
def filterCall (i : Inner) : Arguments FilterCall := do
  match ← identifier? with
  | none => want .filterName
  | some (name, t) =>
    let filters := (← read).filters
    if filters.isBanned name then refuse t (.bannedFilter name)
    else
      match filters.find? name with
      | none => refuse t (.unknownFilter name)
      | some f =>
        match ← symbol? .colon with
        | some _ => return .mk name (some (← i.operand)) t.position f
        | none => pure (.mk name none t.position f)

/-- Filters that follow, each behind a bar.  The number bounds them. -/
def filtersRest (i : Inner) : Nat → Arguments (List FilterCall)
  | 0 => pure []
  | n + 1 => do
    match ← symbol? .bar with
    | none => pure []
    | some _ =>
      let f ← filterCall i
      return f :: (← filtersRest i n)

/-! ## Levels -/

/-- An operand with its filters. -/
def primary (i : Inner) : Arguments Expr := do
  let e ← operand i
  match ← filtersRest i (← left) with
  | [] => pure e
  | filters => pure (.filtered e filters)

/-- Unary operators and their operand. -/
def unary (i : Inner) : Arguments Expr := do
  match ← takeIf unaryOp? with
  | none => primary i
  | some (op, t) => return .unary op (← i.unary) t.position

/-- A power. -/
def power (i : Inner) : Arguments Expr := do
  let base ← unary i
  match ← symbol? .caret with
  | none => pure base
  | some t => return .binary .pow base (← i.power) t.position

/-- A product. -/
def multiplicative (i : Inner) : Arguments Expr := leftAssoc multiplicativeOp? (power i)

/-- A sum. -/
def additive (i : Inner) : Arguments Expr := leftAssoc additiveOp? (multiplicative i)

/-- The operator of a comparison or a membership test, which can be `not in`. -/
def relation? : Arguments (Option (BinaryOp × Token)) := do
  match ← peek?, ← peekSecond? with
  | some t, some second =>
    if t.isKeyword .kwNot && second.isKeyword .kwIn then
      skip 2
      pure (some (.notIn, t))
    else takeIf relationalOp?
  | _, _ => takeIf relationalOp?

/-- At most one comparison or membership test. -/
def relational (i : Inner) : Arguments Expr := do
  let lhs ← additive i
  match ← relation? with
  | none => pure lhs
  | some (op, t) => return .binary op lhs (← additive i) t.position

/-- A conjunction. -/
def conjunction (i : Inner) : Arguments Expr := leftAssoc andOp? (relational i)

/-- A disjunction. -/
def disjunction (i : Inner) : Arguments Expr := leftAssoc orOp? (conjunction i)

/-- Fails because the expression nests too deep. -/
def tooDeep : Arguments Expr := do want (.shallower (← read).depthLimit)

/-- What can be used inside when `room` more levels are allowed. -/
def inner : (room : Nat) → Inner
  | 0 => ⟨tooDeep, tooDeep, tooDeep, tooDeep, tooDeep⟩
  | room + 1 =>
    { expression := fun env ts => disjunction (inner room) env ts
      group := fun env ts => (inner room).expression env ts
      power := fun env ts => power (inner room) env ts
      unary := fun env ts => unary (inner room) env ts
      operand := fun env ts => operand (inner room) env ts }

end Stencil.Grammar

namespace Stencil.Arguments

/-- Takes an expression. -/
def expression : Arguments Expr := do (Grammar.inner (← read).depthLimit).expression

/-- Takes filters with bars between them. -/
def filterChain : Arguments (List FilterCall) := do
  let i := Grammar.inner (← read).depthLimit
  let f ← Grammar.filterCall i
  return f :: (← Grammar.filtersRest i (← left))

/-- Takes bindings `name=expression`, as many as follow.  The number bounds them. -/
def bindingsUpTo : Nat → Arguments (List (String × Expr))
  | 0 => pure []
  | n + 1 => do
    match ← peek?, ← peekSecond? with
    | some t, some second =>
      match t.lexeme, second.lexeme with
      | .identifier name, .symbol .equal =>
        skip 2
        let e ← expression
        return (name, e) :: (← bindingsUpTo n)
      | _, _ => pure []
    | _, _ => pure []

/-- Takes bindings `name=expression`, as many as follow. -/
def bindings : Arguments (List (String × Expr)) := do bindingsUpTo (← left)

end Stencil.Arguments
