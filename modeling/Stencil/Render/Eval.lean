import Stencil.Filter.Apply
import Stencil.Render.State
import Stencil.Value.Arithmetic
import Stencil.Value.Path

/-!
# Evaluating expressions

Expressions are evaluated by recursion on their trees.  Only a call leads out of the tree: to the
body of a macro or to the next body of a block.  Those jumps are a parameter.
-/

namespace Stencil

/-- How a render goes on in another tree. -/
structure Jumps where
  run : List Node → Render Unit
  /-- Runs a body that the current block overrides. -/
  runOverridden : List Node → Render Unit
  eval : Expr → Render Value

/-- The value of a literal. -/
def Literal.value : Literal → Value
  | bool b => .bool b
  | int n => .int n
  | float x => .float x
  | string s => .str s

/-! ## Calls -/

/-- The values of the parameters of a macro: the arguments as far as they go, then the defaults. -/
def bindParameters (j : Jumps) :
    List (String × Option Expr) → List Value → Render (List (String × Value))
  | [], _ => pure []
  | (name, _) :: params, v :: args => return (name, v) :: (← bindParameters j params args)
  | (name, none) :: params, [] => return (name, .nil) :: (← bindParameters j params [])
  | (name, some e) :: params, [] => do
    let v ← j.eval e
    return (name, v) :: (← bindParameters j params [])

/-- Calls a macro; what it writes is the result. -/
def callMacro (j : Jumps) (m : Macro) (args : List Value) : Render Value :=
  Render.deeper ("macro '" ++ m.name ++ "'") do
    let bindings ← bindParameters j m.params args
    return .safe (← Render.inScope bindings (Render.capture (j.run m.body)))

/-- Renders the nearest body that the current block overrides. -/
def renderSuper (j : Jumps) : Render Value := do
  match (← get).blocks with
  | (body :: rest) :: _ =>
    return .safe (← Render.withBlock rest (Render.capture (j.runOverridden body)))
  | _ => pure (.safe "")

/-- Lets the host carry out a function. -/
def callHost (key : String) (data : Value) (args : List Value) : Render Value := fun host s =>
  match host.function key data args s with
  | (.ok v, s') => (.ok v, s')
  | (.error e, s') => (.error (.error e), s')

/-- Calls a function on arguments that fit its signature. -/
def callFunction (j : Jumps) (f : Function) (args : List Value) : Render Value := do
  Render.ofFault (f.check args)
  match f.callback with
  | .body m => callMacro j m args
  | .super => renderSuper j
  | .host key data => callHost key data args

/-- Calls the method `name` of a record. -/
def callMethod (r : HostRecord) (name : String) (args : List Value) : Render Value := do
  match r.methods.lookup name with
  | some key => Halt.ofExcept ((← read).method key args)
  | none => Render.fail (.noMethod r.kind name)

/-! ## Filters -/

/-- What a filter gave.  A fault without a position gets that of the filter, and its name. -/
def filterResult (name : String) (p : Position) (result : Except Error Value) : Render Value :=
  match result with
  | .ok v => pure v
  | .error (.execution none fault cause) =>
    throw (.error (.execution (some p) (.inFilter name fault) cause))
  | .error e => throw (.error e)

/-- Applies a filter. -/
def applyFilter (name : String) (p : Position) (f : FilterRef) (v : Value) (arg : Option Value) :
    Render Value := do
  match f with
  | .builtin f =>
    match f.apply v arg with
    | .ok v => pure v
    | .error .remainder => throw .crashed
    | .error fault => filterResult name p (.error (.run fault))
  | .custom key => filterResult name p ((← read).filter key v arg)

/-! ## Expressions -/

mutual

/-- The value of an expression. -/
def Expr.eval (j : Jumps) : Expr → Render Value
  | .literal l => pure l.value
  | .array items => return .seq (← evalAll j items)
  | .path name segments p => Render.located p do
    evalPath j ((← get).lookup name) segments
  | .unary op e p => do
    let v ← e.eval j
    Render.located p (Render.ofFault (v.applyUnary op))
  | .binary op a b p => do
    let v ← a.eval j
    match op with
    | .and => if v.isTruthy then return .bool (← b.eval j).isTruthy else pure (.bool false)
    | .or => if v.isTruthy then pure (.bool true) else return .bool (← b.eval j).isTruthy
    | op =>
      let w ← b.eval j
      Render.located p (Render.ofFault (v.applyBinary op w))
  | .filtered e filters => do
    let v ← e.eval j
    evalFilters j v filters

/-- The values of several expressions, from left to right. -/
def evalAll (j : Jumps) : List Expr → Render (List Value)
  | [] => pure []
  | e :: es => do
    let v ← e.eval j
    return v :: (← evalAll j es)

/-- What the segments of a path lead to from the value `v`.  A function that needs no argument is
called where no parentheses follow, and from nil every path leads to nil. -/
def evalPath (j : Jumps) (v : Value) : List Segment → Render Value
  | [] => implicitCall v
  | .call args :: rest => do
    match v with
    | .nil => pure .nil
    | .func f =>
      let args ← evalAll j args
      evalPath j (← callFunction j f args) rest
    | v => Render.fail (.notCallable v.kind)
  | .attr name :: .call args :: rest => do
    match ← implicitCall v with
    | .nil => pure .nil
    | .record r =>
      let args ← evalAll j args
      evalPath j (← callMethod r name args) rest
    | v => evalPath j (← Render.ofFault (v.member name)) (.call args :: rest)
  | .attr name :: rest => do
    match ← implicitCall v with
    | .nil => pure .nil
    | v => evalPath j (← Render.ofFault (v.member name)) rest
  | .index n :: rest => do
    match ← implicitCall v with
    | .nil => pure .nil
    | v => evalPath j (← Render.ofFault (v.item n)) rest
  | .subscript key :: rest => do
    match ← implicitCall v with
    | .nil => pure .nil
    | v =>
      let key ← key.eval j
      evalPath j (← Render.ofFault (v.subscript key)) rest
where
  /-- The value, or what it returns if it is a function that needs no argument. -/
  implicitCall (v : Value) : Render Value :=
    match v with
    | .func f => if f.minArgs = 0 then callFunction j f [] else pure v
    | v => pure v

/-- Applies filters from left to right. -/
def evalFilters (j : Jumps) (v : Value) : List FilterCall → Render Value
  | [] => pure v
  | .mk name none p f :: rest => do
    evalFilters j (← applyFilter name p f v none) rest
  | .mk name (some e) p f :: rest => do
    let arg ← e.eval j
    evalFilters j (← applyFilter name p f v (some arg)) rest

end

/-- The values of bindings, from left to right. -/
def evalBindings (j : Jumps) : List (String × Expr) → Render (List (String × Value))
  | [] => pure []
  | (name, e) :: rest => do
    let v ← e.eval j
    return (name, v) :: (← evalBindings j rest)

end Stencil
