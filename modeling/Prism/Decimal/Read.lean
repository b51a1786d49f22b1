import Prism.Decimal.Fixed
import Prism.Room
import Prism.Text.Basic

namespace Prism.Decimal

/-- Digits with single underscores between them: the digits, and what follows them. -/
def typedDigits : List Char → List Char × List Char
  | [] => ([], [])
  | c :: '_' :: d :: rest =>
    if !c.isDigit then ([], c :: '_' :: d :: rest)
    else if d.isDigit then
      let (digits, left) := typedDigits (d :: rest)
      (c :: digits, left)
    else ([c], '_' :: d :: rest)
  | c :: rest =>
    if !c.isDigit then ([], c :: rest)
    else
      let (digits, left) := typedDigits rest
      (c :: digits, left)

/-- Blanks that may stand around a number: those for spacing, but not those that separate records. -/
def isTypedBlank (c : Char) : Bool :=
  c = ' ' || ('\t' ≤ c && c ≤ '\r') || (0x80 ≤ c.toNat && Text.isBlank c)

/-- The text without blanks around it and with the usual digits. -/
def typedText (text : String) : List Char :=
  let inner := (text.toList.dropWhile isTypedBlank).reverse.dropWhile isTypedBlank
  Text.usualDigits inner.reverse

/-- Whether a minus sign comes first, and what follows the sign. -/
def typedSign (text : List Char) : Bool × List Char :=
  if text.head? = some '-' then (true, text.drop 1)
  else if text.head? = some '+' then (false, text.drop 1)
  else (false, text)

def digitsValue (digits : List Char) : Nat :=
  digits.foldl (fun value c => 10 * value + (c.toNat - 48)) 0

def readInt? (room : Room) (text : String) : Option Int :=
  let (negative, rest) := typedSign (typedText text)
  match typedDigits rest with
  | ([], _) => none
  | (digits, []) =>
    if room.admits digits.length then
      let value : Int := digitsValue digits
      some (if negative then -value else value)
    else none
  | _ => none

/-- A power of ten, up to the end of the text. -/
def typedPower? (text : List Char) : Option Int :=
  match text with
  | [] => some 0
  | mark :: rest =>
    if mark ≠ 'e' && mark ≠ 'E' then none
    else
      let (negative, rest) := typedSign rest
      match typedDigits rest with
      | ([], _) => none
      | (digits, []) =>
        let value : Int := digitsValue digits
        some (if negative then -value else value)
      | _ => none

def infinityWords : List String := ["inf", "infinity"]

/-- A number, with infinity and the one that is none by their names. -/
def readFloat? (text : String) : Option Float :=
  let (negative, rest) := typedSign (typedText text)
  let word := String.ofList (rest.map Char.toLower)
  if infinityWords.contains word then some (if negative then -1.0 / 0.0 else 1.0 / 0.0)
  else if word = "nan" then some (0.0 / 0.0)
  else
    let (whole, rest) := typedDigits rest
    let (fraction, rest) := match rest with
      | '.' :: more => typedDigits more
      | _ => ([], rest)
    if whole.isEmpty && fraction.isEmpty then none
    else (typedPower? rest).map fun power =>
      ofDecimal negative ⟨digitsValue (whole ++ fraction), power - fraction.length⟩

end Prism.Decimal
