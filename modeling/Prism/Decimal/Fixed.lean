import Prism.Decimal.Shortest

namespace Prism.Decimal

/-- The magnitude in units of `10 ^ -places`, rounded. -/
def Dyadic.inPlaces (d : Dyadic) (places : Nat) : Nat :=
  let (n, den) := d.ratio
  nearest (n * Nat.pow 10 places) den

/-- The magnitude with `count` significant digits, rounded. -/
def Dyadic.significant (d : Dyadic) (count : Nat) : Scientific :=
  if d.mantissa = 0 then ⟨0, 1 - (count : Int)⟩
  else
    let (n, den) := d.ratio
    let exponent := pointPosition n den - count
    let (sn, sd) := shifted n den (-exponent)
    let digits := nearest sn sd
    if digits = Nat.pow 10 count then ⟨Nat.pow 10 (count - 1), exponent + 1⟩ else ⟨digits, exponent⟩

/-- Digits with a point before the last `places` of them. -/
def pointed (digits places : Nat) : List Char :=
  let whole := Nat.toDigits 10 (digits / Nat.pow 10 places)
  if places = 0 then whole
  else
    let part := Nat.toDigits 10 (digits % Nat.pow 10 places)
    whole ++ '.' :: (List.replicate (places - part.length) '0' ++ part)

/-- A sign and at least two digits. -/
def exponentMark (exponent : Int) : List Char :=
  let digits := Nat.toDigits 10 exponent.natAbs
  'e' :: (if exponent < 0 then '-' else '+') ::
    (List.replicate (2 - digits.length) '0' ++ digits)

/-- One digit before the point, the others after it, and the power of ten. -/
def scientificText (s : Scientific) : List Char :=
  let count := (Nat.toDigits 10 s.digits).length
  pointed s.digits (count - 1) ++ exponentMark (s.exponent + (count - 1 : Nat))

def positionalText (s : Scientific) : List Char :=
  pointed (s.digits * Nat.pow 10 s.exponent.toNat) (-s.exponent).toNat

def signed (negative : Bool) (text : List Char) : String :=
  String.ofList (if negative then '-' :: text else text)

/-- Writes a number by the digits of its magnitude; the two infinities and the undefined value have
names instead. -/
def written (digits : Dyadic → List Char) (x : Float) : String :=
  match valueOf x with
  | .undefined => "nan"
  | .infinite negative => signed negative ['i', 'n', 'f']
  | .finite d => signed d.negative (digits d)

/-- The fewest digits that read back. Powers of ten from -4 to 15 are written out, and a number
without a fraction ends in `.0`. -/
def shortDigits (d : Dyadic) : List Char :=
  let s := shortest d
  let lead := s.exponent + ((Nat.toDigits 10 s.digits).length - 1 : Nat)
  if -4 ≤ lead && lead < 16 then
    if 0 ≤ s.exponent then positionalText s ++ ['.', '0'] else positionalText s
  else scientificText s

/-- At most `count` significant digits without zeros at the end; powers of ten from -4 up to `count`
are written out. -/
def generalDigits (count : Nat) (d : Dyadic) : List Char :=
  let s := d.significant count
  if s.digits = 0 then ['0']
  else
    let lead := s.exponent + (count - 1 : Nat)
    if -4 ≤ lead && lead < count then positionalText s.trim else scientificText s.trim

/-- One digit before the point, `places` after it, and the power of ten. -/
def exponentDigits (places : Nat) (d : Dyadic) : List Char :=
  let s := d.significant (places + 1)
  let lead := if s.digits = 0 then 0 else s.exponent + (places : Nat)
  pointed s.digits places ++ exponentMark lead

def shortText : Float → String := written shortDigits

def fixedText (places : Nat) : Float → String :=
  written fun d => pointed (d.inPlaces places) places

def generalText (count : Nat) : Float → String := written (generalDigits count)

/-- Digits with a point even where nothing follows it. -/
def keepPoint (text : List Char) : List Char :=
  if text.contains '.' then text
  else text.takeWhile (· ≠ 'e') ++ '.' :: text.dropWhile (· ≠ 'e')

def fixedForm (kept : Bool) (places : Nat) : Float → String :=
  written fun d =>
    let digits := pointed (d.inPlaces places) places
    if kept then keepPoint digits else digits

def exponentForm (kept : Bool) (places : Nat) : Float → String :=
  written fun d => if kept then keepPoint (exponentDigits places d) else exponentDigits places d

def generalForm (kept : Bool) (count : Nat) : Float → String :=
  written fun d =>
    if kept then
      let s := d.significant count
      let lead := s.exponent + (count - 1 : Nat)
      keepPoint (if s.digits = 0 then pointed 0 (count - 1)
        else if -4 ≤ lead && lead < count then positionalText s else scientificText s)
    else generalDigits count d

/-- The floating-point number nearest to a decimal. Decimals far outside the range count as zero or as a power of
two beyond it. -/
def ofDecimal (negative : Bool) (s : Scientific) : Float :=
  let size := ((Nat.toDigits 10 s.digits).length : Int) + s.exponent
  if s.digits = 0 || size < -400 then ofRatio negative 0 1
  else if 400 < size then ofRatio negative (Nat.pow 2 1024) 1
  else
    let (num, den) := shifted s.digits 1 s.exponent
    ofRatio negative num den

/-- The nearest number with `places` digits after the point. -/
def roundTo (places : Nat) (x : Float) : Float :=
  match valueOf x with
  | .finite d => ofDecimal d.negative ⟨d.inPlaces places, -(places : Int)⟩
  | _ => x

end Prism.Decimal
