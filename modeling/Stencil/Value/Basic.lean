import Stencil.Decimal.Written
import Stencil.Error
import Stencil.Value

/-!
# What values are

The kind of a value, its text, its truth, its length and its items.
-/

namespace Stencil

namespace HostRecord

/-- The text of the record. -/
def text (r : HostRecord) : String := r.shown.getD ("<" ++ r.kind ++ ">")

/-- The member `name`. -/
def attr? (r : HostRecord) (name : String) : Option Value := r.attrs.lookup name

/-- The item at an index. -/
def item? (r : HostRecord) (n : Int) : Option Value :=
  if n < 0 then none else r.items[n.toNat]?

end HostRecord

namespace Value

/-- The kind of a value, as messages name it. -/
def kind : Value → String
  | nil => "nil"
  | bool _ => "bool"
  | int _ => "integer"
  | float _ => "float"
  | str _ | safe _ => "string"
  | seq _ => "sequence"
  | map _ => "mapping"
  | record r => r.kind
  | func _ => "function"

/-- Whether the value is nil. -/
def isNil : Value → Bool
  | nil => true
  | _ => false

/-- Whether the value is written without escaping. -/
def isSafe : Value → Bool
  | safe _ => true
  | _ => false

/-- Whether the value is a number. -/
def isNumber : Value → Bool
  | int _ | float _ => true
  | _ => false

/-- The string, of a safe one as well. -/
def string? : Value → Option String
  | str s | safe s => some s
  | _ => none

/-- The integer. -/
def int? : Value → Option Int
  | int n => some n
  | _ => none

mutual

/-- The text of a value. -/
def text : Value → String
  | nil => ""
  | bool b => if b then "True" else "False"
  | int n => toString n
  | float x => Decimal.written x
  | str s | safe s => s
  | seq items => "[" ++ textItems items ++ "]"
  | map entries => "\x7b" ++ textEntries entries ++ "\x7d"
  | record r => r.text
  | func f => "<function " ++ f.name ++ ">"

/-- The texts of items with commas between them. -/
def textItems : List Value → String
  | [] => ""
  | [v] => v.text
  | v :: vs => v.text ++ ", " ++ textItems vs

/-- The texts of entries with commas between them. -/
def textEntries : List (String × Value) → String
  | [] => ""
  | [(k, v)] => k ++ ": " ++ v.text
  | (k, v) :: es => k ++ ": " ++ v.text ++ ", " ++ textEntries es

end

/-- Whether a condition holds for the value. -/
def isTruthy : Value → Bool
  | nil => false
  | bool b => b
  | int n => n != 0
  | float x => x != 0.0
  | str s | safe s => !s.isEmpty
  | seq items => !items.isEmpty
  | map entries => !entries.isEmpty
  | record r => r.size.all (0 < ·)
  | func _ => true

/-- The value as a safe string. -/
def toSafe : Value → Value
  | safe s => safe s
  | str s => safe s
  | v => safe v.text

/-- How many characters, items or entries the value has. -/
def length? : Value → Option Nat
  | str s | safe s => some s.length
  | seq items => some items.length
  | map entries => some entries.length
  | record r => r.size
  | _ => none

/-- A string of one character. -/
def ofChar (c : Char) : Value := str (String.singleton c)

/-- The items that a loop over the value visits: of a map its keys in rising order, of a string its
characters. -/
def items? : Value → Option (List Value)
  | seq items => some items
  | map entries => some ((Table.sorted entries).keys.map str)
  | str s | safe s => some (s.toList.map ofChar)
  | record r => r.visits
  | _ => none

end Value

end Stencil
