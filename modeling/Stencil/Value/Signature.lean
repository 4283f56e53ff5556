import Stencil.Value.Basic

/-!
# Signatures

A function checks its arguments before it does anything: there must be enough of them and not too
many, and each must be of the kind of its parameter.
-/

namespace Stencil

namespace ParamKind

/-- Whether a value is of the kind. -/
def accepts : ParamKind → Value → Bool
  | any, _ => true
  | bool, .bool _ => true
  | int, .int _ => true
  | float, .float _ => true
  | number, v => v.isNumber
  | string, v => v.string?.isSome
  | seq, .seq _ => true
  | map, .map _ => true
  | _, _ => false

/-- The word for the kind in messages. -/
def word : ParamKind → String
  | any => "any value"
  | bool => "bool"
  | int => "integer"
  | float => "float"
  | number => "number"
  | string => "string"
  | seq => "sequence"
  | map => "mapping"

end ParamKind

namespace Function

/-- A function without parameters. -/
def new (name : String) (callback : Callback) : Function := ⟨name, [], 0, none, callback⟩

/-- The function with one more parameter. -/
def param (f : Function) (kind : ParamKind) : Function := { f with params := f.params ++ [kind] }

/-- The function with one more parameter that may be left out. -/
def optionalParam (f : Function) (kind : ParamKind) : Function :=
  { f with params := f.params ++ [kind], optional := f.optional + 1 }

/-- The function with any number of further arguments. -/
def variadicParam (f : Function) (kind : ParamKind) : Function := { f with variadic := some kind }

/-- The least number of arguments. -/
def minArgs (f : Function) : Nat := f.params.length - f.optional

/-- The greatest number of arguments, if there is one. -/
def maxArgs? (f : Function) : Option Nat :=
  match f.variadic with
  | some _ => none
  | none => some f.params.length

/-- The kind that the argument at `i` must have. -/
def kindAt (f : Function) (i : Nat) : ParamKind :=
  match f.params[i]? with
  | some kind => kind
  | none => f.variadic.getD .any

/-- Checks the kinds of arguments, the first of which is the argument at `i`. -/
def checkKinds (f : Function) : (i : Nat) → List Value → Except RunFault Unit
  | _, [] => .ok ()
  | i, v :: vs =>
    if (f.kindAt i).accepts v then f.checkKinds (i + 1) vs
    else .error (.wrongArgument (i + 1) f.name (f.kindAt i).word v.kind)

/-- Checks arguments against the signature. -/
def check (f : Function) (args : List Value) : Except RunFault Unit :=
  if args.length < f.minArgs then .error (.tooFewArguments f.name f.minArgs args.length)
  else
    match f.maxArgs? with
    | some most =>
      if most < args.length then .error (.tooManyArguments f.name most args.length)
      else f.checkKinds 0 args
    | none => f.checkKinds 0 args

/-- The function that calls a macro. -/
def ofMacro (m : Macro) : Function :=
  { name := m.name
    params := m.params.map fun _ => .any
    optional := (m.params.filter fun p => p.2.isSome).length
    variadic := none
    callback := .body m }

/-- The function behind `block.Super`. -/
def super : Function := new "Super" .super

end Function

end Stencil
