namespace Prism.Decimal

/-- The magnitude `mantissa * 2 ^ exponent`, with a sign that zero has too. -/
structure Dyadic where
  negative : Bool
  mantissa : Nat
  exponent : Int
  deriving DecidableEq, Repr

inductive Value where
  | undefined
  | infinite (negative : Bool)
  | finite (value : Dyadic)
  deriving DecidableEq, Repr

/-- The exponent of the least positive number. -/
def leastExponent : Int := -1074

/-- Reads the three fields of the binary form. -/
def valueOf (x : Float) : Value :=
  let bits := x.toBits.toNat
  let negative := Nat.pow 2 63 ≤ bits
  let biased := bits / Nat.pow 2 52 % 2048
  let fraction := bits % Nat.pow 2 52
  if biased = 2047 then
    if fraction = 0 then .infinite negative else .undefined
  else if biased = 0 then .finite ⟨negative, fraction, leastExponent⟩
  else .finite ⟨negative, Nat.pow 2 52 + fraction, leastExponent + (biased - 1 : Nat)⟩

/-- Numerator and denominator of `2 ^ exponent`. -/
def powerOfTwo (exponent : Int) : Nat × Nat :=
  (Nat.pow 2 exponent.toNat, Nat.pow 2 (-exponent).toNat)

/-- Numerator and denominator of the magnitude. -/
def Dyadic.ratio (d : Dyadic) : Nat × Nat :=
  let (up, down) := powerOfTwo d.exponent
  (d.mantissa * up, down)

/-- The nearest whole number to a ratio; a half goes to the even neighbour. -/
def nearest (num den : Nat) : Nat :=
  let low := num / den
  let twice := 2 * (num % den)
  if twice < den then low
  else if twice > den then low + 1
  else if low % 2 = 0 then low else low + 1

/-- The bits of infinity, which lie above those of all finite magnitudes. -/
def infinityBits : Nat := 2047 * Nat.pow 2 52

/-- The least magnitude that rounds to infinity. -/
def magnitudeLimit : Nat := Nat.pow 2 1024 - Nat.pow 2 970

/-- The floating-point number nearest to a ratio; a half goes to the even neighbour. The exponent is
such that the mantissa has its full length, or the least there is. -/
def ofRatio (negative : Bool) (num den : Nat) : Float :=
  let guess : Int := num.log2 - den.log2
  let (up, down) := powerOfTwo guess
  let lead := if den * up ≤ num * down then guess else guess - 1
  let exponent := max (lead - 52) leastExponent
  let (up, down) := powerOfTwo exponent
  let mantissa := if num = 0 then 0 else nearest (num * down) (den * up)
  let bits := if num = 0 then 0
    else min infinityBits ((exponent - leastExponent).toNat * Nat.pow 2 52 + mantissa)
  Float.ofBits (UInt64.ofNat (bits + if negative then Nat.pow 2 63 else 0))

/-- Numerator and denominator of a ratio times `10 ^ power`. -/
def shifted (num den : Nat) (power : Int) : Nat × Nat :=
  (num * Nat.pow 10 power.toNat, den * Nat.pow 10 (-power).toNat)

/-- The number of decimal digits before the point of a positive ratio; it is negative or zero for
ratios below one tenth, by the number of zeros that follow the point. -/
def pointPosition (num den : Nat) : Int :=
  if den ≤ num then (Nat.toDigits 10 (num / den)).length
  else
    let guess : Int := 1 - ((Nat.toDigits 10 (den / num)).length : Int)
    let (n, d) := shifted num den (1 - guess)
    if d ≤ n then guess else guess - 1

end Prism.Decimal
