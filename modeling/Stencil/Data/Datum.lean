import Stencil.Data.Table

/-!
# Data

The values that data files can hold.  Integers and floating-point numbers are kept apart, and
records keep the order of their entries.
-/

namespace Stencil

/-- A value of a data file. -/
inductive Datum where
  | null
  | bool (b : Bool)
  | int (n : Int)
  | float (x : Float)
  | text (s : String)
  | list (items : List Datum)
  | record (entries : List (String × Datum))
deriving Inhabited

namespace Datum

/-- The entry of a record under a key. -/
def field? (d : Datum) (key : String) : Option Datum :=
  match d with
  | record entries => Table.get? entries key
  | _ => none

end Datum

end Stencil
