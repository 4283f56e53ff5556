/-!
# Integers of 64 bits

The integers of templates are the signed integers of 64 bits.  They are kept as `Int`, and every
operation that could leave the range says what happens there: it fails, or it stops at the end.
-/

namespace Stencil.Integer

/-- The least integer of 64 bits. -/
def least : Int := -9223372036854775808

/-- The greatest integer of 64 bits. -/
def greatest : Int := 9223372036854775807

/-- Whether `n` has 64 bits. -/
def fits (n : Int) : Bool := least ≤ n && n ≤ greatest

/-- The integer `n`, if it has 64 bits. -/
def checked (n : Int) : Option Int := if fits n then some n else none

/-- The integer of 64 bits nearest to `n`. -/
def clamp (n : Int) : Int := max least (min greatest n)

/-- The value of a list of decimal digits; other characters are not expected. -/
def ofDigits (ds : List Char) : Nat := ds.foldl (fun n d => 10 * n + (d.toNat - 0x30)) 0

/-- The integer that a text spells: digits with at most one sign in front, within 64 bits. -/
def read? (s : List Char) : Option Int :=
  let (negative, ds) :=
    match s with
    | '-' :: ds => (true, ds)
    | '+' :: ds => (false, ds)
    | ds => (false, ds)
  if ds.isEmpty || !ds.all fun d => '0' ≤ d && d ≤ '9' then none
  else checked (if negative then -(ofDigits ds : Int) else ofDigits ds)

theorem fits_iff {n : Int} : fits n = true ↔
    -9223372036854775808 ≤ n ∧ n ≤ 9223372036854775807 := by
  rw [fits, Bool.and_eq_true, decide_eq_true_iff, decide_eq_true_iff]
  rfl

theorem checked_of_fits {n : Int} (h : fits n = true) : checked n = some n := if_pos h

/-- At least one digit, and nothing else. -/
structure IsDigits (ds : List Char) : Prop where
  ne_nil : ds ≠ []
  digits : ∀ d ∈ ds, '0' ≤ d ∧ d ≤ '9'

/-- The texts of an integer: digits with at most one sign in front. -/
inductive Spells : List Char → Int → Prop where
  | plain {ds : List Char} (h : IsDigits ds) : Spells ds (ofDigits ds)
  | plus {ds : List Char} (h : IsDigits ds) : Spells ('+' :: ds) (ofDigits ds)
  | minus {ds : List Char} (h : IsDigits ds) : Spells ('-' :: ds) (-(ofDigits ds))

theorem IsDigits.not_refused {ds : List Char} (h : IsDigits ds) :
    ¬(ds.isEmpty || !ds.all fun d => '0' ≤ d && d ≤ '9') = true := by
  have hall : (ds.all fun d => decide ('0' ≤ d) && decide (d ≤ '9')) = true := by
    rw [List.all_eq_true]
    intro d hd
    simpa using h.digits d hd
  rw [hall]
  simpa using h.ne_nil

theorem Spells.ne_nil {s : List Char} {n : Int} (h : Spells s n) : s ≠ [] := by
  cases h with
  | plain h => exact h.ne_nil
  | plus | minus => exact List.cons_ne_nil _ _

/-- A text of an integer is read if the integer has 64 bits. -/
theorem Spells.read?_eq {s : List Char} {n : Int} (h : Spells s n) : read? s = checked n := by
  cases h with
  | plain h =>
    have hsign : ∀ ds, s ≠ '-' :: ds ∧ s ≠ '+' :: ds := by
      intro ds
      constructor
      all_goals
        rintro rfl
        exact absurd (h.digits _ List.mem_cons_self) (by decide)
    unfold read?
    split
    rename_i negative ds hsplit
    split at hsplit
    · exact absurd rfl (hsign _).1
    · exact absurd rfl (hsign _).2
    · cases hsplit
      exact if_neg h.not_refused
  | plus h => exact if_neg h.not_refused
  | minus h => exact if_neg h.not_refused

theorem ofDigits_toDigits (n : Nat) : ofDigits (Nat.toDigits 10 n) = n := by
  have h := @Nat.ofDigitChars_ten_toDigits n
  rw [Nat.ofDigitChars_eq_foldl] at h
  exact h

theorem isDigits_toDigits (n : Nat) : IsDigits (Nat.toDigits 10 n) where
  ne_nil := Nat.toDigits_ne_nil
  digits d hd := by
    have hdigit := Nat.isDigit_of_mem_toDigits (by decide) (by decide) hd
    simpa [Char.isDigit, Char.le_def] using hdigit

theorem spells_repr (n : Nat) : Spells n.repr.toList n := by
  rw [Nat.toList_repr]
  have h := Spells.plain (isDigits_toDigits n)
  rwa [ofDigits_toDigits] at h

/-- The usual text of an integer is one of its texts. -/
theorem spells_toString (n : Int) : Spells (toString n).toList n := by
  cases n with
  | ofNat n => exact spells_repr n
  | negSucc n =>
    change Spells ("-" ++ (n + 1).repr).toList _
    rw [String.toList_append, Nat.toList_repr]
    have h := Spells.minus (isDigits_toDigits (n + 1))
    rwa [ofDigits_toDigits] at h

end Stencil.Integer
