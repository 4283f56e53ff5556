import Stencil.Decimal.Shortest

/-!
# Numbers in writing

The text of a floating-point number: with the fewest digits that read back and never an exponent,
or with a fixed number of decimals.
-/

namespace Stencil.Decimal

/-- The digits of `n`. -/
def digits (n : Nat) : List Char := Nat.toDigits 10 n

/-- The digits `ds` times `10 ^ e` in positional notation, without a point where there is no
fraction. -/
def positional (ds : List Char) (e : Int) : List Char :=
  if 0 ≤ e then ds ++ List.replicate e.toNat '0'
  else
    let places := (-e).toNat
    let padded := List.replicate (places + 1 - ds.length) '0' ++ ds
    padded.take (padded.length - places) ++ '.' :: padded.drop (padded.length - places)

/-- The number without the zeros at its end, and the exponent that makes up for them. -/
def dropZeros : (steps : Nat) → Nat → Int → Nat × Int
  | 0, n, e => (n, e)
  | steps + 1, n, e => if n != 0 && n % 10 == 0 then dropZeros steps (n / 10) (e + 1) else (n, e)

/-- The fewest digits of a positive number and their exponent, without zeros at the end. -/
def significant (n : Nat) (e : Int) : Nat × Int :=
  let (c, k) := shortest n e
  dropZeros 20 c k

/-- A sign in front of a number's digits. -/
def signed (negative : Bool) (s : List Char) : List Char := if negative then '-' :: s else s

/-- The text of a number with the fewest digits that read back. -/
def written (x : Float) : String :=
  match Binary.ofFloat x with
  | .nan => "NaN"
  | .infinite negative => String.ofList (signed negative "inf".toList)
  | .finite negative 0 _ => String.ofList (signed negative ['0'])
  | .finite negative n e =>
    let (c, k) := significant n e
    String.ofList (signed negative (positional (digits c) k))

/-- The quotient of `a` by `b` rounded to a whole number, a half to the even neighbour. -/
def roundHalfEven (a b : Nat) : Nat :=
  let q := a / b
  let r := a % b
  if 2 * r < b then q
  else if b < 2 * r then q + 1
  else if q % 2 == 0 then q else q + 1

/-- The text of a number with exactly `places` decimals. -/
def writtenWith (places : Nat) (x : Float) : String :=
  match Binary.ofFloat x with
  | .nan => "NaN"
  | .infinite negative => String.ofList (signed negative "inf".toList)
  | .finite negative n e =>
    let (a, b) := Binary.ratio n e
    let c := roundHalfEven (a * Nat.pow 10 places) b
    let text := if places = 0 then digits c else positional (digits c) (-(places : Int))
    String.ofList (signed negative text)

/-- The text of a number in a data file: positional from `1e-5` up to below `1e16`, always with a
fraction, and with an exponent beyond. -/
def writtenAsData (x : Float) : String :=
  match Binary.ofFloat x with
  | .nan | .infinite _ => "null"
  | .finite negative 0 _ => String.ofList (signed negative "0.0".toList)
  | .finite negative n e =>
    let (c, k) := significant n e
    let ds := digits c
    let point : Int := ds.length + k
    let text :=
      if -5 < point && point ≤ 16 then
        if 0 ≤ k then positional ds k ++ ".0".toList else positional ds k
      else
        let mantissa := match ds with
          | [d] => [d]
          | d :: rest => d :: '.' :: rest
          | [] => []
        mantissa ++ 'e' :: (toString (point - 1)).toList
    String.ofList (signed negative text)

end Stencil.Decimal
