import Stencil.Decimal.Binary

/-!
# The fewest digits that read back

Every decimal number in a certain interval around a floating-point number is read back as that
number.  The digits chosen are the fewest that lie in the interval, and among equally many the
nearest.
-/

namespace Stencil.Decimal

/-- How many decimal digits `n` has; zero has one. -/
def digitCount (n : Nat) : Nat := (Nat.toDigits 10 n).length

/-- The least `k` with `a / b < 10 ^ k`, for positive `a` and `b`. -/
def magnitude (a b : Nat) : Int :=
  if b ≤ a then digitCount (a / b) else 1 - digitCount ((b + a - 1) / a - 1)

/-- The pair `(a * 10 ^ e, b)` scaled to integers. -/
def scale (a b : Nat) (e : Int) : Nat × Nat :=
  if 0 ≤ e then (a * Nat.pow 10 e.toNat, b) else (a, b * Nat.pow 10 (-e).toNat)

/-- An interval around a fraction; all three have the denominator `den`. -/
structure Interval where
  low : Nat
  value : Nat
  high : Nat
  den : Nat
  closed : Bool

namespace Interval

/-- The numbers that are rounded to `n * 2 ^ e`.  The gap below is half as wide at a power of two,
and the ends belong to the interval iff the significand is even. -/
def around (n : Nat) (e : Int) : Interval :=
  let below := if n == Nat.pow 2 52 && e != -1074 then 1 else 2
  let (low, den) := Binary.ratio (4 * n - below) (e - 2)
  let (value, _) := Binary.ratio (4 * n) (e - 2)
  let (high, _) := Binary.ratio (4 * n + 2) (e - 2)
  ⟨low, value, high, den, n % 2 == 0⟩

/-- Whether `c * 10 ^ e` lies in the interval. -/
def holds (i : Interval) (c : Nat) (e : Int) : Bool :=
  let (l, d) := scale i.low i.den (-e)
  let (h, _) := scale i.high i.den (-e)
  let x := c * d
  if i.closed then l ≤ x && x ≤ h else l < x && x < h

/-- The multiple of `10 ^ e` in the interval that is nearest to the value, if one of the value's two
neighbours lies in it.  Of two equally near the greater is taken. -/
def nearest? (i : Interval) (e : Int) : Option Nat :=
  let (v, d) := scale i.value i.den (-e)
  let c := v / d
  match i.holds c e, i.holds (c + 1) e with
  | true, true => some (if 2 * (v % d) < d then c else c + 1)
  | true, false => some c
  | false, true => some (c + 1)
  | false, false => none

/-- The digits on the coarsest grid that has a point in the interval, starting with the grid of
`10 ^ e`, together with that grid's exponent. -/
def shortest (i : Interval) : (steps : Nat) → (e : Int) → Nat × Int
  | 0, e => ((i.value + i.den - 1) / i.den, e)
  | steps + 1, e =>
    match i.nearest? e with
    | some c => (c, e)
    | none => shortest i steps (e - 1)

end Interval

/-- The fewest digits that read back as `n * 2 ^ e`, for a positive `n`: the number is the first
component times ten to the power of the second. -/
def shortest (n : Nat) (e : Int) : Nat × Int :=
  let (a, b) := Binary.ratio n e
  (Interval.around n e).shortest 18 (magnitude a b - 1)

end Stencil.Decimal
