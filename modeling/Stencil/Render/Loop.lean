import Stencil.Value.Order

/-!
# Loops

What a loop visits, and what it tells its body about the visit.
-/

namespace Stencil.Loop

/-- The values of the two variables at each visit of a loop, unless sorting breaks down.  Over a map
with two variables these are the keys in rising order and what is stored under them; otherwise an
item and its index. -/
def visits (sorter : Sorter) (source : Value) (two reversed sorted : Bool) :
    Option (List (Value × Value)) :=
  let visits :=
    match source, two with
    | .map entries, true => some ((Table.sorted entries).map fun e => (.str e.1, e.2))
    | source, _ =>
      let items := source.items?.getD []
      let items := if sorted then Value.sort? sorter items else some items
      items.map fun items => items.zipIdx.map fun e => (.int e.2, e.1)
  if reversed then visits.map List.reverse else visits

/-- What the body sees as `forloop` at the visit with index `i` of `total`. -/
def counters (i total : Nat) (parent : Value) : Value :=
  .map
    [("Counter", .int (i + 1 : Nat)), ("Counter0", .int i), ("Revcounter", .int (total - i : Nat)),
     ("Revcounter0", .int (total - i - 1 : Nat)), ("First", .bool (i == 0)),
     ("Last", .bool (i + 1 == total)), ("Parentloop", parent)]

/-- What the variables of a loop are bound to at a visit. -/
def bindings (first : String) (second : Option String) (counters : Value) (visit : Value × Value) :
    List (String × Value) :=
  ("forloop", counters) ::
    match second with
    | some second => [(first, visit.1), (second, visit.2)]
    | none => [(first, visit.2)]

/-- Which of `n` values a cycle shows, given what is bound to `forloop`. -/
def cycleIndex (forloop : Value) (n : Nat) : Nat :=
  let counter : Int :=
    match forloop with
    | .map entries => ((entries.lookup "Counter0").bind Value.int?).getD 0
    | _ => 0
  (counter % n).toNat

end Stencil.Loop
