import Stencil.Proofs.Serial.Draft
import Stencil.Value

/-!
# The names in trees

The names of the variables that a tree reads or binds, those in the templates that stand in it among
them. Serial numbers have no part in them (`names_unnumbered`).
-/

namespace Stencil

mutual

/-- The variables that an expression reads. -/
def Expr.names : Expr → List String
  | .literal _ => []
  | .array items => exprNames items
  | .path name segments _ => name :: segmentNames segments
  | .unary _ e _ => e.names
  | .binary _ a b _ => a.names ++ b.names
  | .filtered e filters => e.names ++ filterNames filters

/-- The variables that a step of a path reads. -/
def Segment.names : Segment → List String
  | .attr _ => []
  | .index _ => []
  | .subscript key => key.names
  | .call args => exprNames args

/-- The variables that the argument of a filter reads. -/
def FilterCall.names : FilterCall → List String
  | .mk _ arg _ _ => argNames arg

/-- The variables that expressions read. -/
def exprNames : List Expr → List String
  | [] => []
  | e :: es => e.names ++ exprNames es

/-- The variables that the steps of a path read. -/
def segmentNames : List Segment → List String
  | [] => []
  | s :: ss => s.names ++ segmentNames ss

/-- The variables that the arguments of filters read. -/
def filterNames : List FilterCall → List String
  | [] => []
  | f :: fs => f.names ++ filterNames fs

/-- The variables that an expression reads if there is one. -/
def argNames : Option Expr → List String
  | none => []
  | some e => e.names

end

/-- The names that are bound, and the variables that are read for them. -/
def bindingNames (bindings : List (String × Expr)) : List String :=
  bindings.flatMap fun b => b.1 :: b.2.names

/-- The names of parameters, and the variables that are read for their defaults. -/
def paramNames (params : List (String × Option Expr)) : List String :=
  params.flatMap fun p => p.1 :: argNames p.2

mutual

/-- The variables that a node reads or binds. -/
def Node.names : Node → List String
  | .text _ => []
  | .output _ e => e.names
  | .tag _ _ statement => statement.names

/-- The variables that a statement reads or binds. -/
def Statement.names : Statement → List String
  | .branch branches otherwise => branchNames branches ++ optionalNames otherwise
  | .compare lhs rhs _ body otherwise =>
    lhs.names ++ rhs.names ++ nodeNames body ++ optionalNames otherwise
  | .loop first second source _ _ body empty =>
    "forloop" :: first :: second.toList ++ source.names ++ nodeNames body ++ optionalNames empty
  | .cycle values target _ => "forloop" :: target.toList ++ exprNames values
  | .firstOf values => exprNames values
  | .block _ body => nodeNames body
  | .includes target _ bindings _ _ => target.names ++ bindingNames bindings
  | .imports macros => macroNames macros
  | .bind bindings body => bindingNames bindings ++ nodeNames body
  | .assign name value => name :: value.names
  | .define m => m.name :: m.names
  | .escaping _ body => nodeNames body
  | .filtering filters body => filterNames filters ++ nodeNames body
  | .spaceless body => nodeNames body
  | .nothing => []
  | .now _ _ => []
  | .write _ => []
  | .ratio value most width target => value.names ++ most.names ++ width.names ++ target.toList
  | .custom steps => stepNames steps

/-- The variables that a step reads or binds. -/
def Step.names : Step → List String
  | .write _ => []
  | .run body => nodeNames body
  | .captured _ body => nodeNames body
  | .shown _ value => value.names

/-- The variables that are read to find a template, and those in it if it is there. -/
def Target.names : Target → List String
  | .linked t => t.names
  | .named name => name.names

/-- The variables that are read to find a parent, and those in it if it is there. -/
def Parent.names : Parent → List String
  | .linked t => t.names
  | .named name _ => name.names

/-- The parameters of a macro, and the variables that its body reads or binds. -/
def Macro.names : Macro → List String
  | ⟨_, params, body, _⟩ => paramNames params ++ nodeNames body

/-- The variables that a template and its ancestors read or bind. -/
def Template.names : Template → List String
  | ⟨_, _, _, nodes, parent, blocks, _, _, _, _⟩ =>
    nodeNames nodes ++ parentNames parent ++ bodyNames blocks

/-- The variables that nodes read or bind. -/
def nodeNames : List Node → List String
  | [] => []
  | n :: ns => n.names ++ nodeNames ns

/-- The variables that a body reads or binds if there is one. -/
def optionalNames : Option (List Node) → List String
  | none => []
  | some body => nodeNames body

/-- The variables that are read to find a parent if there is one. -/
def parentNames : Option Parent → List String
  | none => []
  | some parent => parent.names

/-- The variables that branches read or bind. -/
def branchNames : List (Expr × List Node) → List String
  | [] => []
  | ⟨condition, body⟩ :: branches => condition.names ++ nodeNames body ++ branchNames branches

/-- The variables that steps read or bind. -/
def stepNames : List Step → List String
  | [] => []
  | step :: steps => step.names ++ stepNames steps

/-- The variables that named bodies read or bind. -/
def bodyNames : List (String × List Node) → List String
  | [] => []
  | ⟨_, body⟩ :: blocks => nodeNames body ++ bodyNames blocks

/-- The names that macros are bound to, and the variables in them. -/
def macroNames : List (String × Macro) → List String
  | [] => []
  | ⟨name, m⟩ :: macros => name :: m.names ++ macroNames macros

end

mutual

/-- The variables that the macros in a value read or bind. -/
def Value.names : Value → List String
  | .nil => []
  | .bool _ => []
  | .int _ => []
  | .float _ => []
  | .str _ => []
  | .safe _ => []
  | .seq items => valueNames items
  | .map entries => fieldNames entries
  | .record r => r.names
  | .func f => f.names

/-- The variables that the macros in a record read or bind. -/
def HostRecord.names : HostRecord → List String
  | ⟨_, attrs, items, _, visits, _, _⟩ =>
    fieldNames attrs ++ valueNames items ++ visitNames visits

/-- The variables that a function reads or binds. -/
def Function.names : Function → List String
  | ⟨_, _, _, _, callback⟩ => callback.names

/-- The variables that a callback reads or binds. -/
def Callback.names : Callback → List String
  | .body m => m.names
  | .super => []
  | .host _ data => data.names

/-- The variables that the macros in values read or bind. -/
def valueNames : List Value → List String
  | [] => []
  | v :: vs => v.names ++ valueNames vs

/-- The variables that the macros in named values read or bind. -/
def fieldNames : List (String × Value) → List String
  | [] => []
  | ⟨_, v⟩ :: fields => v.names ++ fieldNames fields

/-- The variables that the macros in values read or bind if there are any. -/
def visitNames : Option (List Value) → List String
  | none => []
  | some vs => valueNames vs

end

/-! ## Lists -/

theorem exprNames_eq (es : List Expr) : exprNames es = es.flatMap Expr.names := by
  induction es with
  | nil => rfl
  | cons e es ih => rw [exprNames, ih, List.flatMap_cons]

theorem segmentNames_eq (ss : List Segment) : segmentNames ss = ss.flatMap Segment.names := by
  induction ss with
  | nil => rfl
  | cons s ss ih => rw [segmentNames, ih, List.flatMap_cons]

theorem filterNames_eq (fs : List FilterCall) : filterNames fs = fs.flatMap FilterCall.names := by
  induction fs with
  | nil => rfl
  | cons f fs ih => rw [filterNames, ih, List.flatMap_cons]

theorem nodeNames_eq (ns : List Node) : nodeNames ns = ns.flatMap Node.names := by
  induction ns with
  | nil => rfl
  | cons n ns ih => rw [nodeNames, ih, List.flatMap_cons]

theorem branchNames_eq (branches : List (Expr × List Node)) :
    branchNames branches = branches.flatMap fun b => b.1.names ++ nodeNames b.2 := by
  induction branches with
  | nil => rfl
  | cons b branches ih => rw [branchNames, ih, List.flatMap_cons]

theorem stepNames_eq (steps : List Step) : stepNames steps = steps.flatMap Step.names := by
  induction steps with
  | nil => rfl
  | cons step steps ih => rw [stepNames, ih, List.flatMap_cons]

theorem bodyNames_eq (blocks : List (String × List Node)) :
    bodyNames blocks = blocks.flatMap fun b => nodeNames b.2 := by
  induction blocks with
  | nil => rfl
  | cons b blocks ih => rw [bodyNames, ih, List.flatMap_cons]

theorem macroNames_eq (macros : List (String × Macro)) :
    macroNames macros = macros.flatMap fun m => m.1 :: m.2.names := by
  induction macros with
  | nil => rfl
  | cons m macros ih =>
    rw [macroNames, ih, List.flatMap_cons]

theorem valueNames_eq (vs : List Value) : valueNames vs = vs.flatMap Value.names := by
  induction vs with
  | nil => rfl
  | cons v vs ih => rw [valueNames, ih, List.flatMap_cons]

theorem fieldNames_eq (fields : List (String × Value)) :
    fieldNames fields = fields.flatMap fun e => e.2.names := by
  induction fields with
  | nil => rfl
  | cons e fields ih => rw [fieldNames, ih, List.flatMap_cons]

/-! ## Numbers -/

mutual

theorem Node.names_unnumbered : (n : Node) → n.unnumbered.names = n.names
  | .text _ => rfl
  | .output _ _ => rfl
  | .tag _ _ statement => statement.names_unnumbered

theorem Statement.names_unnumbered : (s : Statement) → s.unnumbered.names = s.names
  | .branch branches otherwise => by
    simp only [Statement.unnumbered, Statement.names, branchNames_unnumbered branches,
      optionalNames_unnumbered otherwise]
  | .compare _ _ _ body otherwise => by
    simp only [Statement.unnumbered, Statement.names, nodeNames_unnumbered body,
      optionalNames_unnumbered otherwise]
  | .loop _ _ _ _ _ body empty => by
    simp only [Statement.unnumbered, Statement.names, nodeNames_unnumbered body,
      optionalNames_unnumbered empty]
  | .cycle _ _ _ => rfl
  | .firstOf _ => rfl
  | .block _ body => nodeNames_unnumbered body
  | .includes target _ _ _ _ => by
    simp only [Statement.unnumbered, Statement.names, target.names_unnumbered]
  | .imports macros => macroNames_unnumbered macros
  | .bind _ body => by simp only [Statement.unnumbered, Statement.names, nodeNames_unnumbered body]
  | .assign _ _ => rfl
  | .define m => by
    have hname : m.unnumbered.name = m.name := by
      cases m
      rfl
    simp only [Statement.unnumbered, Statement.names, hname, m.names_unnumbered]
  | .escaping _ body => nodeNames_unnumbered body
  | .filtering _ body => by
    simp only [Statement.unnumbered, Statement.names, nodeNames_unnumbered body]
  | .spaceless body => nodeNames_unnumbered body
  | .nothing => rfl
  | .now _ _ => rfl
  | .write _ => rfl
  | .ratio _ _ _ _ => rfl
  | .custom steps => stepNames_unnumbered steps

theorem Step.names_unnumbered : (step : Step) → step.unnumbered.names = step.names
  | .write _ => rfl
  | .run body => nodeNames_unnumbered body
  | .captured _ body => nodeNames_unnumbered body
  | .shown _ _ => rfl

theorem Target.names_unnumbered : (target : Target) → target.unnumbered.names = target.names
  | .linked t => t.names_unnumbered
  | .named _ => rfl

theorem Parent.names_unnumbered : (parent : Parent) → parent.unnumbered.names = parent.names
  | .linked t => t.names_unnumbered
  | .named _ _ => rfl

theorem Macro.names_unnumbered : (m : Macro) → m.unnumbered.names = m.names
  | ⟨_, _, body, _⟩ => by simp only [Macro.unnumbered, Macro.names, nodeNames_unnumbered body]

theorem Template.names_unnumbered : (t : Template) → t.unnumbered.names = t.names
  | ⟨_, _, _, nodes, parent, blocks, _, _, _, _⟩ => by
    simp only [Template.unnumbered, Template.names, nodeNames_unnumbered nodes,
      parentNames_unnumbered parent,
      bodyNames_unnumbered blocks]

theorem nodeNames_unnumbered : (ns : List Node) → nodeNames (unnumberedNodes ns) = nodeNames ns
  | [] => rfl
  | n :: ns => by
    simp only [unnumberedNodes, nodeNames, n.names_unnumbered, nodeNames_unnumbered ns]

theorem optionalNames_unnumbered :
    (body : Option (List Node)) → optionalNames (unnumberedOptional body) = optionalNames body
  | none => rfl
  | some body => nodeNames_unnumbered body

theorem parentNames_unnumbered :
    (parent : Option Parent) → parentNames (unnumberedParent parent) = parentNames parent
  | none => rfl
  | some parent => parent.names_unnumbered

theorem branchNames_unnumbered : (branches : List (Expr × List Node)) →
    branchNames (unnumberedBranches branches) = branchNames branches
  | [] => rfl
  | ⟨_, body⟩ :: branches => by
    simp only [unnumberedBranches, branchNames, nodeNames_unnumbered body,
      branchNames_unnumbered branches]

theorem stepNames_unnumbered :
    (steps : List Step) → stepNames (unnumberedSteps steps) = stepNames steps
  | [] => rfl
  | step :: steps => by
    simp only [unnumberedSteps, stepNames, step.names_unnumbered, stepNames_unnumbered steps]

theorem bodyNames_unnumbered : (blocks : List (String × List Node)) →
    bodyNames (unnumberedBlocks blocks) = bodyNames blocks
  | [] => rfl
  | ⟨_, body⟩ :: blocks => by
    simp only [unnumberedBlocks, bodyNames, nodeNames_unnumbered body,
      bodyNames_unnumbered blocks]

theorem macroNames_unnumbered : (macros : List (String × Macro)) →
    macroNames (unnumberedMacros macros) = macroNames macros
  | [] => rfl
  | ⟨_, m⟩ :: macros => by
    simp only [unnumberedMacros, macroNames, m.names_unnumbered, macroNames_unnumbered macros]

end

end Stencil
