import Stencil.Decimal.Binary

/-!
# Reading numbers

A decimal number is read as the floating-point number nearest to it.  The grammar allows a sign,
digits with a point anywhere among them, an exponent, and the words for infinities and for what is
no number.
-/

namespace Stencil.Decimal

/-- Positive infinity. -/
def infinity : Float := 1.0 / 0.0

/-- What is no number. -/
def notANumber : Float := 0.0 / 0.0

/-- The floating-point number nearest to `n * 10 ^ e`.  Exponents beyond the range are settled
before any power is taken. -/
def ofScientific (n : Nat) (e : Int) : Float :=
  if n = 0 then 0.0
  else
    let top : Int := (Nat.toDigits 10 n).length + e
    if top > 400 then infinity
    else if top < -400 then 0.0
    else if 0 ≤ e then Float.ofScientific n false e.toNat
    else Float.ofScientific n true (-e).toNat

/-- Whether `c` is a decimal digit. -/
def isDigit (c : Char) : Bool := '0' ≤ c && c ≤ '9'

/-- The exponent that a text spells in full: nothing, or a mark, a sign and digits. -/
def exponent? : List Char → Option Int
  | [] => some 0
  | c :: s =>
    if c != 'e' && c != 'E' then none
    else
      let (negative, ds) :=
        match s with
        | '-' :: ds => (true, ds)
        | '+' :: ds => (false, ds)
        | ds => (false, ds)
      if ds.isEmpty || !ds.all isDigit then none
      else
        let n : Int := Integer.ofDigits ds
        some (if negative then -n else n)

/-- The number that unsigned digits spell. -/
def unsigned? (s : List Char) : Option Float :=
  let whole := s.takeWhile isDigit
  let rest := s.dropWhile isDigit
  let (fraction, rest) :=
    match rest with
    | '.' :: rest => (rest.takeWhile isDigit, rest.dropWhile isDigit)
    | rest => ([], rest)
  if whole.isEmpty && fraction.isEmpty then none
  else (exponent? rest).map fun e =>
    ofScientific (Integer.ofDigits (whole ++ fraction)) (e - fraction.length)

/-- The number that a text spells. -/
def read? (s : List Char) : Option Float :=
  let (negative, body) :=
    match s with
    | '-' :: s => (true, s)
    | '+' :: s => (false, s)
    | s => (false, s)
  let value :=
    match String.ofList (body.map Char.toLower) with
    | "inf" | "infinity" => some infinity
    | "nan" => some notANumber
    | _ => unsigned? body
  value.map fun x => if negative then -x else x

end Stencil.Decimal
