import Stencil.Data.Datum
import Stencil.Decimal.Reading
import Stencil.Integer
import Stencil.Text.Basic

/-!
# Scalars of YAML

What a plain scalar means: nothing, a flag, an integer, a number, or else the text that is written.
-/

namespace Stencil.Yaml

/-- The value of a digit to a base. -/
def digitValue? (base : Nat) (c : Char) : Option Nat :=
  let n :=
    if '0' ≤ c && c ≤ '9' then c.toNat - 0x30
    else if 'a' ≤ c && c ≤ 'f' then c.toNat - 0x57
    else if 'A' ≤ c && c ≤ 'F' then c.toNat - 0x37
    else base
  if n < base then some n else none

/-- The number that digits to a base spell. -/
def natural? (base : Nat) (s : List Char) : Option Nat :=
  if s.isEmpty then none
  else s.foldlM (fun n c => (digitValue? base c).map (base * n + ·)) 0

/-- Whether a scalar is a run of digits that starts with a zero in front of others. -/
def hasLeadingZero (s : List Char) : Bool :=
  match s with
  | '0' :: d :: ds => (d :: ds).all Decimal.isDigit
  | _ => false

/-- The number behind a sign: to base ten, or with a mark for another base. -/
def unsigned? (s : List Char) : Option Nat :=
  match s with
  | '0' :: 'x' :: ds => natural? 16 ds
  | '0' :: 'o' :: ds => natural? 8 ds
  | '0' :: 'b' :: ds => natural? 2 ds
  | s => if hasLeadingZero s then none else natural? 10 s

/-- The integer that a scalar spells. -/
def integer? (s : List Char) : Option Int :=
  match s with
  | '+' :: ds => (unsigned? ds).map fun n => n
  | '-' :: ds => (unsigned? ds).map fun n => -(n : Int)
  | ds => (unsigned? ds).map fun n => n

/-- A scalar without its sign. -/
def withoutSign (s : List Char) : List Char :=
  match s with
  | '+' :: s | '-' :: s => s
  | s => s

/-- The finite number that a scalar spells. -/
def number? (s : List Char) : Option Float :=
  match s with
  | '+' :: '+' :: _ | '+' :: '-' :: _ => none
  | s =>
    if hasLeadingZero (withoutSign s) then none
    else
      match Decimal.read? s with
      | some x => if x.isFinite then some x else none
      | none => none

/-- What a plain scalar means.  Integers beyond 64 bits are refused, and numbers that are not finite
are nothing. -/
def scalar? (s : List Char) : Option Datum :=
  let word := String.ofList s
  if ["", "~", "null", "Null", "NULL"].contains word then some .null
  else if ["true", "True", "TRUE"].contains word then some (.bool true)
  else if ["false", "False", "FALSE"].contains word then some (.bool false)
  else if [".inf", ".Inf", ".INF", ".nan", ".NaN", ".NAN"].contains (String.ofList (withoutSign s))
  then some .null
  else
    match integer? s with
    | some n => if Integer.least ≤ n && n < 18446744073709551616 then some (.int n) else none
    | none =>
      match number? s with
      | some x => some (.float x)
      | none => some (.text word)

end Stencil.Yaml
