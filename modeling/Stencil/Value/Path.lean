import Stencil.Value.Basic

/-!
# Steps into values

Members, items and subscripts.  A step to what is not there gives nil; a step that the kind of value
does not allow is a fault.
-/

namespace Stencil.Value

/-- The member `name` of a map or record. -/
def member (v : Value) (name : String) : Except RunFault Value :=
  match v with
  | map entries => .ok ((entries.lookup name).getD nil)
  | record r => .ok ((r.attr? name).getD nil)
  | _ => .error (.noMember name v.kind)

/-- The item of a list at an index; a negative index counts from the end. -/
def itemAt? {α : Type} (items : List α) (n : Int) : Option α :=
  let i := if n < 0 then items.length + n else n
  if i < 0 then none else items[i.toNat]?

/-- The item at an index: of a list, of a string, of a record, or of a map under the index written
as a key. -/
def item (v : Value) (n : Int) : Except RunFault Value :=
  match v with
  | seq items => .ok ((itemAt? items n).getD nil)
  | str s => .ok (((itemAt? s.toList n).map ofChar).getD nil)
  | safe s => .ok (((itemAt? s.toList n).map fun c => (ofChar c).toSafe).getD nil)
  | map entries => .ok ((entries.lookup (toString n)).getD nil)
  | record r => .ok ((r.item? n).getD nil)
  | _ => .error (.noIndex v.kind)

/-- The value under a key in brackets. -/
def subscript (v key : Value) : Except RunFault Value :=
  match key with
  | int n => v.item n
  | str name | safe name =>
    match v with
    | seq _ => .error (.wordIndex name)
    | _ => v.member name
  | nil => .ok nil
  | _ => .error (.noSubscript key.kind)

end Stencil.Value
