import Stencil.Value.Basic
import Stencil.Text.Basic

/-!
# Comparing values

Equality, order and membership.  Numbers are compared across their two kinds, strings regardless of
whether they are safe; lists, maps and records equal nothing, not even themselves.

Items are sorted by a stable sort of the platform.  It inserts one item after the other into a short
list, and it sorts by any method where the items have a consistent order, so that what comes out is
known in both cases.  Of a longer list whose items contradict each other it is only known that no
item is lost, unless the sort breaks down.
-/

namespace Stencil

/-! ## Sorting -/

section Inserting

variable {α : Type} (before : α → α → Bool)

/-- The items `sorted`, the last first, and `v`, which goes in front of the items that it does not
come before. -/
def insertSorted (v : α) : (sorted : List α) → List α
  | [] => [v]
  | w :: ws => if before v w then w :: insertSorted v ws else v :: w :: ws

/-- The items in rising order, each inserted behind those that it does not come before. -/
def sortInserting (items : List α) : List α :=
  (items.foldl (fun sorted v => insertSorted before v sorted) []).reverse

/-- Where one of two comes before the other, the other does not come before it, and each third one
comes behind the first or before the second. -/
structure Consistent : Prop where
  not_before : ∀ {v w}, before v w = true → ¬before w v = true
  between : ∀ {u v w}, before u w = true → before u v = true ∨ before v w = true

variable {before}

theorem perm_insertSorted (v : α) (sorted : List α) :
    (insertSorted before v sorted).Perm (v :: sorted) := by
  induction sorted with
  | nil => exact .refl _
  | cons w ws ih =>
    unfold insertSorted
    split
    · exact (ih.cons w).trans (.swap v w ws)
    · exact .refl _

theorem perm_foldl_insertSorted (items sorted : List α) :
    (items.foldl (fun sorted v => insertSorted before v sorted) sorted).Perm (items ++ sorted) := by
  induction items generalizing sorted with
  | nil => exact .refl _
  | cons v items ih =>
    calc (items.foldl (fun sorted v => insertSorted before v sorted) (insertSorted before v sorted))
        |>.Perm (items ++ insertSorted before v sorted) := ih _
      _ |>.Perm (items ++ v :: sorted) := (perm_insertSorted v sorted).append_left items
      _ |>.Perm (v :: items ++ sorted) := List.perm_middle

theorem perm_sortInserting (items : List α) : (sortInserting before items).Perm items := by
  have h := @perm_foldl_insertSorted _ before items []
  rw [List.append_nil] at h
  exact (List.reverse_perm _).trans h

end Inserting

/-- The stable sort of the platform.  It knows the items by their positions and by what comes before
what. -/
structure Sorter where
  /-- The positions in the order in which the sort puts their items, unless it breaks down. -/
  arrange : (n : Nat) → (before : Fin n → Fin n → Bool) → Option (List (Fin n))
  perm : ∀ {n before order}, arrange n before = some order → order.Perm (List.finRange n)
  inserts : ∀ {n before}, n ≤ 20 ∨ Consistent before →
    arrange n before = some (sortInserting before (List.finRange n))

/-- The sort that inserts one item after the other into every list. -/
def Sorter.inserting : Sorter where
  arrange n before := some (sortInserting before (List.finRange n))
  perm h := Option.some.inj h ▸ perm_sortInserting _
  inserts _ := rfl

namespace Value

/-! ## Comparing -/

/-- Whether two values are equal. -/
def equals : Value → Value → Bool
  | nil, nil => true
  | bool a, bool b => a == b
  | int a, int b => a == b
  | int a, float b => Decimal.ofInteger a == b
  | float a, int b => a == Decimal.ofInteger b
  | float a, float b => a == b
  | a, b =>
    match a.string?, b.string? with
    | some s, some t => s == t
    | _, _ => false

/-- The order of two floating-point numbers, if both are numbers. -/
def compareFloats (a b : Float) : Option Ordering :=
  if a < b then some .lt
  else if a == b then some .eq
  else if b < a then some .gt
  else none

/-- The order of two values, if they have one. -/
def compare? : Value → Value → Option Ordering
  | int a, int b => some (compare a b)
  | int a, float b => compareFloats (Decimal.ofInteger a) b
  | float a, int b => compareFloats a (Decimal.ofInteger b)
  | float a, float b => compareFloats a b
  | bool a, bool b => some (compare a b)
  | a, b =>
    match a.string?, b.string? with
    | some s, some t => some (compare s t)
    | _, _ => none

/-- Whether `a` comes before `b`. -/
def precedes (a b : Value) : Bool := a.compare? b == some .lt

/-- The items in rising order, unless the sort breaks down.  Items that cannot be compared count as
equal. -/
def sort? (sorter : Sorter) (items : List Value) : Option (List Value) :=
  let before (i j : Fin items.length) : Bool := (items.get i).precedes (items.get j)
  (sorter.arrange items.length before).map fun order => order.map items.get

/-- Whether `needle` is in the value: a part of a string, an item of a list, a key of a map, or a
member or item of a record. -/
def contains (v needle : Value) : Except RunFault Bool :=
  match v with
  | str s | safe s =>
    let part := needle.text.toList
    .ok (part.isEmpty || Text.occursIn part s.toList)
  | seq items => .ok (items.any fun item => item.equals needle)
  | map entries => .ok (Table.has entries needle.text)
  | record r =>
    match needle with
    | str name | safe name => .ok (r.attr? name).isSome
    | int n => .ok (r.item? n).isSome
    | _ => .ok false
  | nil => .ok false
  | _ => .error (.noMembership v.kind)

end Value

end Stencil
