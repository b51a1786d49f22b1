import Prism.Decimal.Binary

namespace Prism.Decimal

/-- The value `digits * 10 ^ exponent`. -/
structure Scientific where
  digits : Nat
  exponent : Int
  deriving DecidableEq, Repr

/-- The ends of the interval of magnitudes that round to the number, over one denominator, and
whether the ends belong to it. -/
structure Rounding where
  low : Nat
  value : Nat
  high : Nat
  den : Nat
  closed : Bool

/-- A number whose mantissa is least for its exponent has a nearer neighbour below. -/
def Dyadic.rounding (d : Dyadic) : Rounding :=
  let (up, down) := powerOfTwo (d.exponent - 2)
  let below := if d.mantissa = Nat.pow 2 52 && leastExponent < d.exponent then 1 else 2
  { low := (4 * d.mantissa - below) * up
    value := 4 * d.mantissa * up
    high := (4 * d.mantissa + 2) * up
    den := down
    closed := d.mantissa % 2 = 0 }

/-- Whether `digits * 10 ^ exponent` rounds to the number. -/
def Rounding.holds (r : Rounding) (digits : Nat) (exponent : Int) : Bool :=
  let (n, d) := shifted digits 1 exponent
  if r.closed then r.low * d ≤ n * r.den && n * r.den ≤ r.high * d
  else r.low * d < n * r.den && n * r.den < r.high * d

/-- The neighbour of the number on the grid of `10 ^ exponent` that rounds to it, if there is one.
Of two the nearer is taken, and of two equally near the even one. -/
def Rounding.onGrid (r : Rounding) (exponent : Int) : Option Nat :=
  let (n, d) := shifted r.value r.den (-exponent)
  let low := n / d
  let twice := 2 * (n % d)
  match r.holds low exponent, r.holds (low + 1) exponent with
  | true, true =>
    if twice < d then some low
    else if twice > d then some (low + 1)
    else some (if low % 2 = 0 then low else low + 1)
  | true, false => some low
  | false, true => some (low + 1)
  | false, false => none

/-- Tries coarser grids first; `left` grids remain, the first of which has `10 ^ exponent`. -/
def Rounding.search (r : Rounding) : (left : Nat) → (exponent : Int) → Scientific
  | 0, exponent => ⟨nearest (shifted r.value r.den (-exponent)).1 (shifted r.value r.den (-exponent)).2, exponent⟩
  | left + 1, exponent => match r.onGrid exponent with
    | some digits => ⟨digits, exponent⟩
    | none => r.search left (exponent - 1)

def Scientific.trim (s : Scientific) : Scientific :=
  go s.digits.log2 s
where
  go : Nat → Scientific → Scientific
    | 0, s => s
    | left + 1, s =>
      if s.digits ≠ 0 && s.digits % 10 = 0 then go left ⟨s.digits / 10, s.exponent + 1⟩ else s

/-- The shortest decimal of a magnitude. Seventeen digits always suffice. -/
def shortest (d : Dyadic) : Scientific :=
  if d.mantissa = 0 then ⟨0, 0⟩
  else
    let r := d.rounding
    (r.search 17 (pointPosition r.value r.den - 1)).trim

end Prism.Decimal
