import Stencil.Data.Datum
import Stencil.Decimal.Reading
import Stencil.Text.Basic
import Stencil.Value.Basic

/-!
# Conversions of values

From values to numbers, as filters ask for them, and between values and data files.
-/

namespace Stencil.Value

/-- The integer that filters see in a value; what has none counts as zero. -/
def toInteger : Value → Int
  | int n => n
  | float x => Decimal.toInteger x
  | bool b => if b then 1 else 0
  | str s | safe s =>
    let s := Text.trim s.toList
    match Integer.read? s with
    | some n => n
    | none =>
      match Decimal.read? s with
      | some x => Decimal.toInteger x
      | none => 0
  | _ => 0

/-- The floating-point number that filters see in a value. -/
def toFloat? : Value → Option Float
  | int n => some (Decimal.ofInteger n)
  | float x => some x
  | bool b => some (if b then 1.0 else 0.0)
  | str s | safe s => Decimal.read? (Text.trim s.toList)
  | _ => none

mutual

/-- The value that data stand for.  Integers beyond 64 bits become floating-point numbers. -/
def ofDatum : Datum → Value
  | .null => nil
  | .bool b => bool b
  | .int n => if Integer.fits n then int n else float (Decimal.ofInteger n)
  | .float x => float x
  | .text s => str s
  | .list items => seq (ofData items)
  | .record entries => map (ofFields entries)

/-- The values of a list of data. -/
def ofData : List Datum → List Value
  | [] => []
  | d :: ds => ofDatum d :: ofData ds

/-- The values of the entries of a record. -/
def ofFields : List (String × Datum) → List (String × Value)
  | [] => []
  | (k, d) :: es => (k, ofDatum d) :: ofFields es

end

mutual

/-- The data that a value is saved as.  Functions and numbers that are not finite are lost, and
records become their texts. -/
def toDatum : Value → Datum
  | nil | func _ => .null
  | bool b => .bool b
  | int n => .int n
  | float x => if x.isFinite then .float x else .null
  | str s | safe s => .text s
  | seq items => .list (toData items)
  | map entries => .record (toFields entries)
  | record r => .text r.text

/-- The data of a list of values. -/
def toData : List Value → List Datum
  | [] => []
  | v :: vs => toDatum v :: toData vs

/-- The data of the entries of a map. -/
def toFields : List (String × Value) → List (String × Datum)
  | [] => []
  | (k, v) :: es => (k, toDatum v) :: toFields es

end

end Stencil.Value

/-!
## Contexts

The data that a caller gives to a render: values by name.
-/

namespace Stencil.Context

/-- The context that data stand for: a record, or nothing at all. -/
def ofDatum (d : Datum) : Except Error Bindings :=
  match d with
  | .null => .ok []
  | .record entries => .ok (Table.ofList (Value.ofFields entries))
  | d => .error (.run (.contextKind (Value.ofDatum d).kind))

/-- The first context with all entries of the second one. -/
def merge (a b : Bindings) : Bindings := b.foldl (fun c e => Table.insert e.1 e.2 c) a

end Stencil.Context
