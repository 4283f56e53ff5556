import Stencil.Integer

/-!
# Floating-point numbers as fractions

A finite number of 64 bits is `significand * 2 ^ exponent`.  Everything that prints or converts
such numbers works on these two integers, so that it is exact.
-/

namespace Stencil.Decimal

/-- What the 64 bits of a floating-point number say. -/
inductive Binary where
  | nan
  | infinite (negative : Bool)
  | finite (negative : Bool) (significand : Nat) (exponent : Int)

namespace Binary

/-- The reading of the bits: one of sign, eleven of exponent, fifty-two of significand. -/
def ofFloat (x : Float) : Binary :=
  let bits := x.toBits.toNat
  let negative := bits / Nat.pow 2 63 == 1
  let biased : Nat := bits / Nat.pow 2 52 % Nat.pow 2 11
  let fraction := bits % Nat.pow 2 52
  if biased == 2047 then
    if fraction == 0 then infinite negative else nan
  else if biased == 0 then finite negative fraction (-1074)
  else finite negative (fraction + Nat.pow 2 52) ((biased : Int) - 1075)

/-- The nonnegative fraction `n * 2 ^ e`, as numerator and denominator. -/
def ratio (n : Nat) (e : Int) : Nat × Nat :=
  if 0 ≤ e then (n * Nat.pow 2 e.toNat, 1) else (n, Nat.pow 2 (-e).toNat)

/-- The whole number of a floating-point number, toward zero; infinities end the range of 64 bits
and what is no number counts as zero. -/
def toInteger : Binary → Int
  | nan => 0
  | infinite true => Integer.least
  | infinite false => Integer.greatest
  | finite negative n e =>
    let (a, b) := ratio n e
    let whole : Int := (a / b : Nat)
    Integer.clamp (if negative then -whole else whole)

/-- Whether the number is finite and whole. -/
def isWhole : Binary → Bool
  | finite _ n e =>
    let (a, b) := ratio n e
    a % b == 0
  | _ => false

end Binary

/-- The floating-point number nearest to an integer. -/
def ofInteger (n : Int) : Float := Float.ofInt n

/-- The integer of 64 bits that a floating-point number is cut to. -/
def toInteger (x : Float) : Int := (Binary.ofFloat x).toInteger

/-- The whole number nearest to `x`, halves going away from zero. -/
def roundToInteger (x : Float) : Int :=
  match Binary.ofFloat x with
  | .finite negative n e =>
    let (a, b) := Binary.ratio n e
    let whole : Int := ((2 * a + b) / (2 * b) : Nat)
    Integer.clamp (if negative then -whole else whole)
  | other => other.toInteger

end Stencil.Decimal
