import Prism.Decimal.Fixed

namespace Prism

def total (counts : List Nat) : Nat := counts.foldr (· + ·) 0

inductive NumberFault where
  | tooLarge
  | quotientTooLarge
  deriving DecidableEq, Repr

def NumberFault.message : NumberFault → String
  | .tooLarge => "int too large to convert to float"
  | .quotientTooLarge => "integer division result too large for a float"

inductive Number where
  | int (value : Int)
  | float (value : Float)
  deriving Inhabited

namespace Number

instance (n : Nat) : OfNat Number n := ⟨.int n⟩

/-- Whether the number has a floating-point neighbour. -/
def fits : Number → Bool
  | .int n => n.natAbs < Decimal.magnitudeLimit
  | .float _ => true

/-- The nearest floating-point number, infinite where there is none. -/
def nearest : Number → Float
  | .int n => Float.ofInt n
  | .float x => x

def toFloat (number : Number) : Except NumberFault Float :=
  if number.fits then .ok number.nearest else .error .tooLarge

/-- The number in messages and documents: whole numbers have no point, the others always do. -/
def text : Number → String
  | .int n => n.repr
  | .float x => Decimal.shortText x

instance : Add Number where
  add
    | .int a, .int b => .int (a + b)
    | a, b => .float (a.nearest + b.nearest)

instance : Sub Number where
  sub
    | .int a, .int b => .int (a - b)
    | a, b => .float (a.nearest - b.nearest)

def plus : Number → Number → Except NumberFault Number
  | .int a, .int b => .ok (.int (a + b))
  | a, b => do return .float ((← a.toFloat) + (← b.toFloat))

def minus : Number → Number → Except NumberFault Number
  | .int a, .int b => .ok (.int (a - b))
  | a, b => do return .float ((← a.toFloat) - (← b.toFloat))

def times : Number → Number → Except NumberFault Number
  | .int a, .int b => .ok (.int (a * b))
  | a, b => do return .float ((← a.toFloat) * (← b.toFloat))

/-- The quotient of whole numbers is the floating-point number nearest to their ratio. -/
def quotient (a b : Int) : Except NumberFault Float :=
  if b ≠ 0 && Decimal.magnitudeLimit * b.natAbs ≤ a.natAbs then .error .quotientTooLarge
  else .ok (Decimal.ofRatio ((a < 0) != (b < 0)) a.natAbs b.natAbs)

def dividedBy : Number → Number → Except NumberFault Number
  | .int a, .int b => do return .float (← quotient a b)
  | a, b => do return .float ((← a.toFloat) / (← b.toFloat))

/-- Compares a whole number with a floating-point one by their exact values. -/
def compareExact (n : Int) (x : Float) : Option Ordering :=
  match Decimal.valueOf x with
  | .undefined => none
  | .infinite negative => some (if negative then .gt else .lt)
  | .finite d =>
    let (num, den) := d.ratio
    let signedNum : Int := if d.negative then -(num : Int) else num
    some (compare (n * den) signedNum)

/-- The order of two numbers; the undefined value has none. -/
def order : Number → Number → Option Ordering
  | .int a, .int b => some (compare a b)
  | .int a, .float y => compareExact a y
  | .float x, .int b => (compareExact b x).map Ordering.swap
  | .float x, .float y =>
    if x < y then some .lt else if x > y then some .gt else if x == y then some .eq else none

def lt (a b : Number) : Bool := a.order b == some .lt
def le (a b : Number) : Bool := match a.order b with
  | some .lt | some .eq => true
  | _ => false
def eq (a b : Number) : Bool := a.order b == some .eq
def isZero (a : Number) : Bool := a.eq 0

/-- Rounds to `places` digits after the point; a whole number stays as it is. -/
def round (places : Nat) : Number → Number
  | .int n => .int n
  | .float x => .float (Decimal.roundTo places x)

/-- The sum of a list from left to right. -/
def sum (numbers : List Number) : Except NumberFault Number := numbers.foldlM plus 0

/-- The arithmetic mean, zero for no numbers. -/
def mean (numbers : List Number) : Except NumberFault Float :=
  if numbers.isEmpty then .ok 0.0
  else do match ← sum numbers with
    | .int a => quotient a numbers.length
    | .float x => return x / Float.ofNat numbers.length

/-- Six significant digits. -/
def generalText (number : Number) : Except NumberFault String :=
  return Decimal.generalText 6 (← number.toFloat)

def fixedText (places : Nat) (number : Number) : Except NumberFault String :=
  return Decimal.fixedText places (← number.toFloat)

end Number

end Prism
