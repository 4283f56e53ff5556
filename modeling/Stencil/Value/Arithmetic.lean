import Stencil.Value.Convert
import Stencil.Value.Order

/-!
# Operators on values

Arithmetic stays in the integers where both operands are integers, and fails where the result leaves
64 bits; a floating-point operand makes the result one.  Sums of anything but numbers join texts.
-/

namespace Stencil.Value

/-- A number of one of the two kinds. -/
inductive Number where
  | int (n : Int)
  | float (x : Float)

namespace Number

/-- The number in a value. -/
def of? : Value → Option Number
  | .int n => some (int n)
  | .float x => some (float x)
  | _ => none

/-- The number as a floating-point number. -/
def toFloat : Number → Float
  | int n => Decimal.ofInteger n
  | float x => x

/-- The number cut to an integer. -/
def toInt : Number → Int
  | int n => n
  | float x => Decimal.toInteger x

end Number

/-- The two operands as numbers. -/
def operands (op : String) (a b : Value) : Except RunFault (Number × Number) :=
  match Number.of? a, Number.of? b with
  | some x, some y => .ok (x, y)
  | _, _ => .error (.operands op a.kind b.kind)

/-- The integer `n` as the result of `op`, if it has 64 bits. -/
def inRange (op : String) (n : Int) : Except RunFault Value :=
  if Integer.fits n then .ok (int n) else .error (.overflow op)

/-- Applies an operation on integers or the one on floating-point numbers. -/
def arithmetic (op : String) (onInts : Int → Int → Int) (onFloats : Float → Float → Float)
    (a b : Value) : Except RunFault Value := do
  match ← operands op a b with
  | (.int m, .int n) => inRange op (onInts m n)
  | (x, y) => pure (float (onFloats x.toFloat y.toFloat))

/-- The sum of numbers, or the joined texts. -/
def add (a b : Value) : Except RunFault Value :=
  if a.isNumber && b.isNumber then arithmetic "+" (· + ·) (· + ·) a b
  else .ok (str (a.text ++ b.text))

/-- The quotient, toward zero for integers. -/
def divide (a b : Value) : Except RunFault Value := do
  match ← operands "/" a b with
  | (.int m, .int n) => if n = 0 then throw .divisionByZero else inRange "/" (m.tdiv n)
  | (x, y) =>
    if y.toFloat == 0.0 then throw .divisionByZero
    else pure (float (x.toFloat / y.toFloat))

/-- The remainder of the division toward zero of the two numbers cut to integers.  The quotient must
have 64 bits too. -/
def modulo (a b : Value) : Except RunFault Value := do
  let (x, y) ← operands "%" a b
  let m := x.toInt
  let n := y.toInt
  if n = 0 then throw .moduloByZero
  else if Integer.fits (m.tdiv n) then pure (int (m.tmod n))
  else throw (.overflow "%")

/-- The power, which is always a floating-point number. -/
def power (a b : Value) : Except RunFault Value := do
  let (x, y) ← operands "^" a b
  pure (float (Float.pow x.toFloat y.toFloat))

/-- Whether the order of two values satisfies `p`. -/
def ordered (op : String) (p : Ordering → Bool) (a b : Value) : Except RunFault Value :=
  match a.compare? b with
  | some o => .ok (bool (p o))
  | none => .error (.incomparable a.kind b.kind op)

/-- An operator with one operand. -/
def applyUnary (op : UnaryOp) (v : Value) : Except RunFault Value :=
  match op, v with
  | .negation, v => .ok (bool !v.isTruthy)
  | .plus, int n => .ok (int n)
  | .plus, float x => .ok (float x)
  | .minus, int n => inRange "-" (-n)
  | .minus, float x => .ok (float (-x))
  | .plus, v => .error (.operand "+" v.kind)
  | .minus, v => .error (.operand "-" v.kind)

/-- An operator with two operands. -/
def applyBinary (op : BinaryOp) (a b : Value) : Except RunFault Value :=
  match op with
  | .or => .ok (bool (a.isTruthy || b.isTruthy))
  | .and => .ok (bool (a.isTruthy && b.isTruthy))
  | .eq => .ok (bool (a.equals b))
  | .ne => .ok (bool !a.equals b)
  | .lt => ordered "<" (· == .lt) a b
  | .le => ordered "<=" (· != .gt) a b
  | .gt => ordered ">" (· == .gt) a b
  | .ge => ordered ">=" (· != .lt) a b
  | .isIn => (b.contains a).map bool
  | .notIn => (b.contains a).map fun found => bool !found
  | .add => add a b
  | .sub => arithmetic "-" (· - ·) (· - ·) a b
  | .mul => arithmetic "*" (· * ·) (· * ·) a b
  | .div => divide a b
  | .mod => modulo a b
  | .pow => power a b

end Stencil.Value
