import Stencil.Render.Chain
import Stencil.Render.Loop
import Stencil.Text.Layout

/-!
# Executing templates

The nodes of a template are executed by recursion on their trees.  What leads out of the tree, an
included template, an inherited block or the body of a macro, is a jump; the jumps that a render may
nest are counted, and a render that would nest more has no result.
-/

namespace Stencil

/-! ## Steps that stay in the tree -/

/-- The template that an include names, unless it may be missing and is. -/
def Target.find? (j : Jumps) (target : Target) (base : String) (ifExists : Bool) :
    Render (Option Template) := do
  match target with
  | .linked t => pure (some t)
  | .named e =>
    let name ← templateName .includeName (← e.eval j)
    Render.requireSet
    match ← Render.attempt (Render.load (some base) name) with
    | .ok t => pure (some t)
    | .error e =>
      if e.isLoader && ifExists then pure none
      else throw (.error (explain (.cannotInclude name) e))

/-- The value of the first expression that is true, if there is one. -/
def firstTrue (j : Jumps) : List Expr → Render (Option Value)
  | [] => pure none
  | e :: es => do
    let v ← e.eval j
    if v.isTruthy then pure (some v) else firstTrue j es

/-- The number that an expression gives; `what` says what it is for. -/
def ratioNumber (j : Jumps) (what : String) (e : Expr) : Render Float := do
  let v ← e.eval j
  match v.toFloat? with
  | some x => pure x
  | none => Render.fail (.ratioNumber what v.kind)

/-- The part `value / most` of `width` as an integer. -/
def ratio (value most width : Float) : Int :=
  if most == 0.0 then 0 else Decimal.roundToInteger (value / most * width)

/-- The moment that stands for the present where the present must not matter. -/
def fixedMoment : Calendar.Moment := ⟨⟨2008, 1, 2⟩, ⟨15, 4, 5, 0⟩, none⟩

/-- What a loop visits.  Sorting may break down. -/
def visitsOf (source : Value) (two reversed sorted : Bool) : Render (List (Value × Value)) := do
  match Loop.visits (← read).sorter source two reversed sorted with
  | some visits => pure visits
  | none => throw .crashed

/-- Runs a loop's body at each visit, from the one with index `i` on. -/
def forEach (first : String) (second : Option String) (parent : Value) (total : Nat)
    (body : Render Unit) : (i : Nat) → List (Value × Value) → Render Unit
  | _, [] => pure ()
  | i, visit :: visits => do
    Render.inScope (Loop.bindings first second (Loop.counters i total parent) visit) body
    forEach first second parent total body (i + 1) visits

/-- Writes what the host says. -/
def writeAnswer (answer : Except Error String) : Render Unit := do
  Render.write (← Halt.ofExcept answer)

/-! ## Nodes -/

mutual

/-- Executes nodes in order. -/
def execNodes (j : Jumps) : List Node → Render Unit
  | [] => pure ()
  | n :: ns => do
    n.exec j
    execNodes j ns

/-- Executes a node.  Its position is that of errors that have none. -/
def Node.exec (j : Jumps) : Node → Render Unit
  | .text s => Render.write s
  | .output p e => Render.located p do Render.writeValue (← e.eval j)
  | .tag _ p statement => Render.located p (statement.exec j)

/-- Executes what a tag does. -/
def Statement.exec (j : Jumps) : Statement → Render Unit
  | .branch branches otherwise => execBranches j (execOptional j otherwise) branches
  | .compare lhs rhs negated body otherwise => do
    let a ← lhs.eval j
    let b ← rhs.eval j
    if a.equals b != negated then execNodes j body else execOptional j otherwise
  | .loop first second source reversed sorted body empty => do
    match ← visitsOf (← source.eval j) second.isSome reversed sorted with
    | [] => execOptional j empty
    | visit :: visits =>
      let parent := (← get).lookup "forloop"
      forEach first second parent (visits.length + 1) (execNodes j body) 0 (visit :: visits)
  | .cycle values target silent => do
    let i := Loop.cycleIndex ((← get).lookup "forloop") values.length
    let v ← (values.getD i default).eval j
    if let some name := target then modify (·.bind name v)
    if !silent then Render.writeValue v
  | .firstOf values => do
    if let some v ← firstTrue j values then Render.writeValue v
  | .block name body => renderBlock j name (execNodes j body)
  | .includes target base bindings only ifExists => do
    if let some t ← target.find? j base ifExists then
      let values ← evalBindings j bindings
      Render.deeper "include" do
        if only then Render.isolated values (t.render j) else Render.inScope values (t.render j)
  | .imports macros => do
    modify fun s => macros.foldl (fun s e => s.bind e.1 (.func (.ofMacro e.2))) s
  | .bind bindings body => do
    let values ← evalBindings j bindings
    Render.inScope values (execNodes j body)
  | .assign name e => do
    let v ← e.eval j
    modify (·.bind name v)
  | .define m => modify (·.bind m.name (.func (.ofMacro m)))
  | .escaping enabled body => Render.withAutoescape enabled (execNodes j body)
  | .filtering filters body => do
    let text ← Render.capture (execNodes j body)
    Render.writeValue (← evalFilters j (.safe text) filters)
  | .spaceless body => do
    let text ← Render.capture (execNodes j body)
    Render.write (Text.spaceless text)
  | .nothing => pure ()
  | .now format fake => do
    let host ← read
    let moment := if fake then fixedMoment else host.now
    match moment.format? format.toList with
    | some text => Render.writeValue (.str (String.ofList text))
    | none => Render.fail .dateFormat
  | .write text => Render.write text
  | .ratio value most width target => do
    let value ← ratioNumber j "value" value
    let most ← ratioNumber j "maximum" most
    let width ← ratioNumber j "width" width
    let n := ratio value most width
    match target with
    | some name => modify (·.bind name (.int n))
    | none => Render.write (toString n)
  | .custom steps => execSteps j steps

/-- Executes the steps of a tag of the host. -/
def execSteps (j : Jumps) : List Step → Render Unit
  | [] => pure ()
  | step :: steps => do
    step.exec j
    execSteps j steps

/-- Executes a step of a tag of the host. -/
def Step.exec (j : Jumps) : Step → Render Unit
  | .write text => Render.write text
  | .run body => execNodes j body
  | .captured key body => do
    let result ← Render.attempt (Render.capture (execNodes j body))
    writeAnswer ((← read).captured key result)
  | .shown key e => do
    let v ← e.eval j
    writeAnswer ((← read).shown key v)

/-- Executes the first body whose condition is true, or what is left otherwise. -/
def execBranches (j : Jumps) (otherwise : Render Unit) : List (Expr × List Node) → Render Unit
  | [] => otherwise
  | ⟨condition, body⟩ :: branches => do
    if (← condition.eval j).isTruthy then execNodes j body
    else execBranches j otherwise branches

/-- Executes a body that may be missing. -/
def execOptional (j : Jumps) : Option (List Node) → Render Unit
  | none => pure ()
  | some body => execNodes j body

end

/-! ## Templates -/

/-- The jumps of a render in which at most `fuel` of them may be nested. -/
def Jumps.upTo : (fuel : Nat) → Jumps
  | 0 => ⟨fun _ => throw .spent, fun _ => throw .spent, fun _ => throw .spent⟩
  | fuel + 1 =>
    ⟨fun nodes => execNodes (upTo fuel) nodes, fun nodes => execNodes (upTo fuel) nodes,
      fun e => e.eval (upTo fuel)⟩

/-- How many jumps a render may nest, which is beyond what a machine can hold. -/
def jumpDepth : Nat := 1000000000

/-- Refuses data under a name that no template can use. -/
def checkNames (context : Bindings) : Except Error Unit :=
  context.forM fun e =>
    if Text.isName e.1.toList then .ok () else .error (.run (.contextKey e.1))

namespace Template

/-- Executes a template on the data of the caller.  The final state holds the output, also that
which was written before an error, and the set with what was loaded. -/
def execute (t : Template) (host : Host) (set : Option Library) (context : Bindings)
    (out : Sink) : Except Halt Unit × State :=
  let start := State.start set context t.options out
  match checkNames context with
  | .error e => (.error (.error e), start)
  | .ok () => t.render (.upTo jumpDepth) host start

end Template

end Stencil
