import Prism.Decimal.Read
import Prism.Document.Basic
import Prism.Text.Base64
import Prism.Text.Lowercase
import Prism.Yaml.Node

namespace Prism.Yaml

/-- What a scalar is. The `merge` and the `value` of a mapping are keys only, and a `sign` is nothing
at all. -/
inductive Kind where
  | null | bool | int | float | octets | merge | moment | value | sign | text
  deriving DecidableEq, Repr

def trueWords : List String := ["yes", "Yes", "YES", "true", "True", "TRUE", "on", "On", "ON"]

def falseWords : List String := ["no", "No", "NO", "false", "False", "FALSE", "off", "Off", "OFF"]

def nullWords : List String := ["", "~", "null", "Null", "NULL"]

def unsigned (text : List Char) : List Char :=
  if text.head? = some '+' || text.head? = some '-' then text.drop 1 else text

def isDigitOrLine (c : Char) : Bool := c.isDigit || c = '_'

/-- A digit, then digits and underscores: what follows them. -/
def digitRun? (text : List Char) : Option (List Char) :=
  if text.head?.any Char.isDigit then some (text.dropWhile isDigitOrLine) else none

/-- Nothing, or a signed power of ten. -/
def isPower (text : List Char) : Bool :=
  match text with
  | [] => true
  | e :: sign :: digits =>
    (e = 'e' || e = 'E') && (sign = '+' || sign = '-') && !digits.isEmpty && digits.all Char.isDigit
  | _ => false

/-- Parts to base sixty, each after a colon; what follows them. -/
def sixties? : Nat → List Char → Option (List Char)
  | 0, _ => none
  | fuel + 1, text =>
    let part? : Option (List Char) := match text with
      | ':' :: a :: b :: rest =>
        if '0' ≤ a && a ≤ '5' && b.isDigit then some rest
        else if a.isDigit then some (b :: rest) else none
      | [':', a] => if a.isDigit then some [] else none
      | _ => none
    match part? with
    | none => none
    | some rest => (sixties? fuel rest).orElse fun _ => some rest

def isInfinity (text : List Char) : Bool :=
  ["." ++ "inf", ".Inf", ".INF"].contains (String.ofList (unsigned text))

def isNotANumber (text : List Char) : Bool := [".nan", ".NaN", ".NAN"].contains (String.ofList text)

def isFloatForm (text : List Char) : Bool :=
  let pointed := match digitRun? (unsigned text) with
    | some ('.' :: rest) => isPower (rest.dropWhile isDigitOrLine)
    | _ => false
  let short := match text with
    | '.' :: rest => (digitRun? rest).any isPower
    | _ => false
  let sixty := match (digitRun? (unsigned text)).bind fun rest => sixties? rest.length rest with
    | some ('.' :: rest) => rest.all isDigitOrLine
    | _ => false
  pointed || short || sixty || isInfinity text || isNotANumber text

def isBinaryDigit (c : Char) : Bool := c = '0' || c = '1' || c = '_'

def isOctalDigit (c : Char) : Bool := ('0' ≤ c && c ≤ '7') || c = '_'

def isHexDigit (c : Char) : Bool := (Json.hexValue? c).isSome || c = '_'

def isIntForm (text : List Char) : Bool :=
  match unsigned text with
  | ['0'] => true
  | '0' :: 'b' :: digits => !digits.isEmpty && digits.all isBinaryDigit
  | '0' :: 'x' :: digits => !digits.isEmpty && digits.all isHexDigit
  | '0' :: digits => digits.all isOctalDigit
  | c :: rest =>
    let after := rest.dropWhile isDigitOrLine
    c.isDigit && (after.isEmpty || sixties? after.length after = some [])
  | [] => false

structure MomentParts where
  year : Nat
  month : Nat
  day : Nat
  clock : Option (Nat × Nat × Nat × List Char × Option Int)

def number (digits : List Char) : Nat := digits.foldl (fun n c => 10 * n + (c.toNat - 48)) 0

/-- At least and at most so many digits. -/
def digitsBetween? (least most : Nat) (text : List Char) : Option (List Char × List Char) :=
  let digits := (text.take most).takeWhile Char.isDigit
  if least ≤ digits.length then some (digits, text.drop digits.length) else none

def dropMark? (mark : Char) (text : List Char) : Option (List Char) :=
  if text.head? = some mark then some (text.drop 1) else none

/-- The distance from universal time in minutes, up to the end of the text. -/
def zone? (text : List Char) : Option (Option Int) :=
  match text.dropWhile fun c => c = ' ' || c = '\t' with
  | [] => if text.isEmpty then some none else none
  | ['Z'] => some (some 0)
  | sign :: rest =>
    if sign = '+' || sign = '-' then do
      let (hours, rest) ← digitsBetween? 1 2 rest
      let minutes ← match rest with
        | [] => some 0
        | ':' :: rest => do
          let (minutes, rest) ← digitsBetween? 2 2 rest
          if rest.isEmpty then some (number minutes) else none
        | _ => none
      let distance : Int := (number hours * 60 + minutes : Nat)
      return some (if sign = '-' then -distance else distance)
    else none

/-- The parts of a moment: a date, or a date and a time. -/
def momentParts? (text : List Char) : Option MomentParts := do
  let (year, rest) ← digitsBetween? 4 4 text
  let rest ← dropMark? '-' rest
  let (month, rest) ← digitsBetween? 1 2 rest
  let rest ← dropMark? '-' rest
  let (day, rest) ← digitsBetween? 1 2 rest
  if rest.isEmpty then return ⟨number year, number month, number day, none⟩
  else
    let rest ← match rest with
      | 'T' :: rest | 't' :: rest => some rest
      | c :: rest =>
        if c = ' ' || c = '\t' then some (rest.dropWhile fun c => c = ' ' || c = '\t') else none
      | [] => none
    let (hour, rest) ← digitsBetween? 1 2 rest
    let rest ← dropMark? ':' rest
    let (minute, rest) ← digitsBetween? 2 2 rest
    let rest ← dropMark? ':' rest
    let (second, rest) ← digitsBetween? 2 2 rest
    let (fraction, rest) := match rest with
      | '.' :: rest => (rest.takeWhile Char.isDigit, rest.dropWhile Char.isDigit)
      | _ => ([], rest)
    let zone ← zone? rest
    return ⟨number year, number month, number day,
      some (number hour, number minute, number second, fraction, zone)⟩

/-- Whether a text reads as a moment by itself. A date alone is written in full. -/
def isMomentForm (text : List Char) : Bool :=
  (momentParts? text).any fun parts => parts.clock.isSome || text.length = 10

def withoutEnd (text : List Char) : List Char :=
  if text.getLast? = some '\n' then text.dropLast else text

/-- What the text of an open scalar is. A line end after it does not count. -/
def kindOf (given : String) : Kind :=
  let chars := if given = "\n" then ['\n'] else withoutEnd given.toList
  let text := String.ofList chars
  if nullWords.contains text then .null
  else if trueWords.contains text || falseWords.contains text then .bool
  else if isFloatForm chars then .float
  else if isIntForm chars then .int
  else if text = "<<" then .merge
  else if isMomentForm chars then .moment
  else if text = "=" then .value
  else if ["!", "&", "*"].contains text then .sign
  else .text

def withoutLines (text : List Char) : List Char := text.filter (· ≠ '_')

/-- The letter after a zero that stands before digits to a base. -/
def baseLetter? : Nat → Option Char
  | 2 => some 'b'
  | 8 => some 'o'
  | 16 => some 'x'
  | _ => none

/-- Digits to a base without the mark of the base. -/
def withoutBase (base : Nat) (text : List Char) : List Char :=
  match text with
  | '0' :: letter :: digits => if baseLetter? base = some letter.toLower then digits else text
  | _ => text

def digitIn? (base : Nat) (c : Char) : Option Nat := (Json.hexValue? c).filter (· < base)

/-- A whole number to a base, as people type it. -/
def wholeIn (room : Room) (base : Nat) (text : List Char) : Except Fault Int :=
  let given := String.ofList text
  let (negative, rest) := Decimal.typedSign (Decimal.typedText given)
  let rest := withoutBase base rest
  let digits := (rest.takeWhile fun c => (digitIn? base c).isSome).filterMap (digitIn? base)
  if base = 10 && !room.admits digits.length then noValue (.limit (room.tooLong digits.length))
  else if digits.isEmpty || digits.length < rest.length then noValue (.whole base given)
  else
    let value : Int := (digits.foldl (fun n d => base * n + d) 0 : Nat)
    .ok (if negative then -value else value)

/-- The sign of a number and the rest; there has to be something. -/
def signed (text : List Char) : Except Fault (Bool × List Char) :=
  match text with
  | [] => noValue .nothing
  | c :: _ => .ok (c = '-', unsigned text)

def magnitudeOf (room : Room) (text : List Char) : Except Fault Int :=
  match text with
  | [] => noValue .nothing
  | ['0'] => .ok 0
  | '0' :: 'b' :: digits => wholeIn room 2 digits
  | '0' :: 'x' :: digits => wholeIn room 16 digits
  | '0' :: _ => wholeIn room 8 text
  | _ =>
    if text.contains ':' then do
      let parts ← (Text.splitAtChar ':' text).mapM (wholeIn room 10)
      return parts.foldl (fun n part => 60 * n + part) 0
    else wholeIn room 10 text

def intOf (room : Room) (text : String) : Except Fault Int := do
  let (negative, rest) ← signed (withoutLines text.toList)
  let value ← magnitudeOf room rest
  return if negative then -value else value

def floatIn (text : List Char) : Except Fault Float :=
  let given := String.ofList text
  match Decimal.readFloat? given with
  | some value => .ok value
  | none => noValue (.number given)

/-- A sum with the parts to base sixty that are left, the last part first. -/
def addSixties (sum : Float) (power : Nat) : List Float → Except Fault Float
  | [] => .ok sum
  | part :: parts => match (Number.int power).toFloat with
    | .error fault => noValue (.size fault)
    | .ok factor => addSixties (sum + part * factor) (60 * power) parts

def floatOf (text : String) : Except Fault Float := do
  let (negative, rest) ← signed (Text.lower (String.ofList (withoutLines text.toList))).toList
  let value ←
    if rest = ".inf".toList then .ok (1.0 / 0.0)
    else if rest = ".nan".toList then .ok (0.0 / 0.0)
    else if rest.contains ':' then do
      addSixties 0.0 1 (← (Text.splitAtChar ':' rest).mapM floatIn).reverse
    else floatIn rest
  return if negative then -value else value

def dayFault? (day : Day) : Option String :=
  if day.year = 0 then some "year 0 is out of range"
  else if day.month = 0 || 12 < day.month then some "month must be in 1..12"
  else if !day.isValid then some "day is out of range for month"
  else none

def clockFault? (clock : Clock) : Option String :=
  if 23 < clock.hour then some "hour must be in 0..23"
  else if 59 < clock.minute then some "minute must be in 0..59"
  else if 59 < clock.second then some "second must be in 0..59"
  else none

def momentOf (parts : MomentParts) : Except Fault Moment :=
  let day : Day := ⟨parts.year, parts.month, parts.day⟩
  match parts.clock with
  | none => match dayFault? day with
    | some reason => noValue (.moment reason)
    | none => .ok (.date day)
  | some (hour, minute, second, fraction, offset) =>
    let sixDigits := (fraction ++ List.replicate 6 '0').take 6
    let clock : Clock := ⟨hour, minute, second, number sixDigits, offset⟩
    match offset.filter fun minutes => minutes ≤ -1440 || 1440 ≤ minutes with
    | some minutes => noValue (.offset minutes)
    | none => match dayFault? day <|> clockFault? clock with
      | some reason => noValue (.moment reason)
      | none => .ok (.instant day clock)

def flagOf (text : String) : Except Fault Bool :=
  let word := Text.lower text
  if ["yes", "true", "on"].contains word then .ok true
  else if ["no", "false", "off"].contains word then .ok false
  else noValue (.flag word)

def octetsOf (text : String) : Except Fault (List Nat) :=
  if text.toList.all fun c => c.toNat < 128 then needed (Text.Base64.decode? text.toList)
  else malformed

def kindOfTag? (tag : String) : Option Kind :=
  [("null", Kind.null), ("bool", .bool), ("int", .int), ("float", .float), ("binary", .octets),
    ("timestamp", .moment), ("str", .text), ("merge", .merge), ("value", .value)].findSome?
      fun (name, kind) => if tag = Node.standardTags ++ name then some kind else none

def scalarOf (room : Room) (kind : Kind) (text : String) : Except Fault Scalar :=
  match kind with
  | .null => .ok .null
  | .bool => (flagOf text).map Scalar.bool
  | .int => (intOf room text).map Scalar.int
  | .float => (floatOf text).map Scalar.float
  | .octets => (octetsOf text).map Scalar.octets
  | .moment => match momentParts? (withoutEnd text.toList) with
    | some parts => (momentOf parts).map Scalar.moment
    | none => noValue .noMoment
  | .merge | .value | .sign => malformed
  | .text => .ok (.text text)

def scalarKind? (tag : Option String) (text : String) (isOpen : Bool) : Option Kind :=
  match tag with
  | some tag => kindOfTag? tag
  | none => some (if isOpen then kindOf text else .text)

end Prism.Yaml
