import Stencil.Text.Basic
import Stencil.Value.Basic

/-!
# Filters for lists
-/

namespace Stencil.Items

/-- The first item, or the first character as a string. -/
def first : Value → Value
  | .seq items => items.headD .nil
  | .str s | .safe s => ((s.toList.head?).map Value.ofChar).getD .nil
  | _ => .nil

/-- The last item, or the last character as a string. -/
def last : Value → Value
  | .seq items => items.getLastD .nil
  | .str s | .safe s => ((s.toList.getLast?).map Value.ofChar).getD .nil
  | _ => .nil

/-- The texts of the items of a list with a separator between them, safe if all of it is. -/
def join (v : Value) (separator : Option Value) : Value :=
  match v with
  | .seq items =>
    let joined := ((separator.map Value.text).getD "").intercalate (items.map Value.text)
    if items.all Value.isSafe && separator.all Value.isSafe then .safe joined else .str joined
  | v => v

/-- The bound of a slice of `length` items; a negative one counts from the end. -/
def sliceBound (length default : Nat) (s : List Char) : Except RunFault Nat :=
  let s := Text.trim s
  if s.isEmpty then .ok default
  else
    match Integer.read? s with
    | none => .error (.sliceBound (String.ofList s))
    | some n => .ok (if n < 0 then (length + n).toNat else min n.toNat length)

/-- The bounds of a slice of `length` items, the second not before the first. -/
def sliceBounds (length : Nat) (range : String) : Except RunFault (Nat × Nat) :=
  match Text.splitOnce ':' range.toList with
  | none => .error (.sliceForm range)
  | some (a, b) => do
    let first ← sliceBound length 0 a
    let last ← sliceBound length length b
    pure (first, max first last)

/-- The part of a list between two bounds. -/
def cutOut {α : Type} (items : List α) (range : String) : Except RunFault (List α) := do
  let (first, last) ← sliceBounds items.length range
  pure ((items.take last).drop first)

/-- The part of a list or string that a range names. -/
def slice (v range : Value) : Except RunFault Value := do
  match v with
  | .seq items => return .seq (← cutOut items range.text)
  | .str s => return .str (String.ofList (← cutOut s.toList range.text))
  | .safe s => return .safe (String.ofList (← cutOut s.toList range.text))
  | v => throw (.noSlice v.kind)

/-- The characters of the text; a list stays as it is. -/
def makeList : Value → Value
  | .seq items => .seq items
  | v => .seq (v.text.toList.map Value.ofChar)

end Stencil.Items
