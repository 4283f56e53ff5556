import Stencil.Text.Quoted
import Stencil.Value.Basic

/-!
# Values for inspection

A form of values that tells their kinds apart, for those who look for a mistake.
-/

namespace Stencil

namespace ParamKind

/-- The kind, for inspection. -/
def inspect : ParamKind → String
  | any => "Any"
  | bool => "Bool"
  | int => "Int"
  | float => "Float"
  | number => "Number"
  | string => "String"
  | seq => "Seq"
  | map => "Map"

end ParamKind

namespace Function

/-- The signature, for inspection. -/
def inspect (f : Function) : String :=
  let params := ", ".intercalate (f.params.map ParamKind.inspect)
  let variadic :=
    match f.variadic with
    | some kind => "Some(" ++ kind.inspect ++ ")"
    | none => "None"
  "Function \x7b name: " ++ Text.quoted f.name ++ ", params: [" ++ params ++ "], variadic: " ++
    variadic ++ " \x7d"

end Function

namespace Value

mutual

/-- The value, for inspection. -/
def inspect : Value → String
  | nil => "Nil"
  | bool b => if b then "Bool(true)" else "Bool(false)"
  | int n => "Int(" ++ toString n ++ ")"
  | float x => "Float(" ++ Decimal.written x ++ ")"
  | str s => "Str(" ++ Text.quoted s ++ ")"
  | safe s => "Safe(" ++ Text.quoted s ++ ")"
  | seq items => "[" ++ inspectItems items ++ "]"
  | map entries => "\x7b" ++ inspectEntries entries ++ "\x7d"
  | record r => "Object(" ++ r.text ++ ")"
  | func f => f.inspect

/-- Items for inspection, with commas between them. -/
def inspectItems : List Value → String
  | [] => ""
  | [v] => v.inspect
  | v :: vs => v.inspect ++ ", " ++ inspectItems vs

/-- Entries for inspection, with commas between them. -/
def inspectEntries : List (String × Value) → String
  | [] => ""
  | [(k, v)] => Text.quoted k ++ ": " ++ v.inspect
  | (k, v) :: es => Text.quoted k ++ ": " ++ v.inspect ++ ", " ++ inspectEntries es

end

end Value

end Stencil
