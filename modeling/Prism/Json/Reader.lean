import Prism.Json.Basic
import Prism.Room

namespace Prism.Json

inductive Expectation where
  | value
  | propertyName
  | colon
  | comma
  | stringEnd
  | noControl
  | knownEscape
  | unicodeEscape
  | endOfText
  | noByteOrderMark
  deriving DecidableEq, Repr

def Expectation.message : Expectation → String
  | value => "Expecting value"
  | propertyName => "Expecting property name enclosed in double quotes"
  | colon => "Expecting ':' delimiter"
  | comma => "Expecting ',' delimiter"
  | stringEnd => "Unterminated string starting at"
  | noControl => "Invalid control character at"
  | knownEscape => "Invalid \\escape"
  | unicodeEscape => "Invalid \\uXXXX escape"
  | endOfText => "Extra data"
  | noByteOrderMark => "Unexpected UTF-8 BOM (decode using utf-8-sig)"

/-- Where reading ends too soon: at an expectation that fails, with the text that is left at that
place, or at a limit. -/
inductive Stop where
  | unexpected (expectation : Expectation) (left : List Char)
  | limit (limit : Limit)

def isSpace (c : Char) : Bool := c = ' ' || c = '\t' || c = '\n' || c = '\r'

def skipSpaces (input : List Char) : List Char := input.dropWhile isSpace

def hexValue? (c : Char) : Option Nat :=
  if c.isDigit then some (c.toNat - 48)
  else if 'a' ≤ c && c ≤ 'f' then some (c.toNat - 87)
  else if 'A' ≤ c && c ≤ 'F' then some (c.toNat - 55)
  else none

def fourHex? (a b c d : Char) : Option Nat := do
  return 4096 * (← hexValue? a) + 256 * (← hexValue? b) + 16 * (← hexValue? c) + (← hexValue? d)

def simpleEscape? : Char → Option Char
  | '"' => some '"'
  | '\\' => some '\\'
  | '/' => some '/'
  | 'b' => some '\x08'
  | 'f' => some '\x0c'
  | 'n' => some '\n'
  | 'r' => some '\r'
  | 't' => some '\t'
  | _ => none

/-- The rest of a string after its opening quote, which starts the text `opened`. Half of a pair of
units that stands alone has no character and reads as the replacement character. -/
def scanText (opened : List Char) : List Char → Except Stop (List Char × List Char)
  | [] => .error (.unexpected .stringEnd opened)
  | '"' :: rest => .ok ([], rest)
  | '\\' :: 'u' :: a :: b :: c :: d :: rest =>
    let stop : Except Stop (List Char × List Char) :=
      .error (.unexpected .unicodeEscape ('u' :: a :: b :: c :: d :: rest))
    if rest.isEmpty then stop
    else match fourHex? a b c d with
      | none => stop
      | some unit =>
        let single (_ : Unit) := do
          let (chars, left) ← scanText opened rest
          return (Char.ofNat (if 0xd800 ≤ unit && unit < 0xe000 then 0xfffd else unit) :: chars, left)
        if 0xd800 ≤ unit && unit < 0xdc00 then
          match rest with
          | '\\' :: 'u' :: e :: f :: g :: h :: more =>
            if more.isEmpty then single ()
            else match fourHex? e f g h with
              | none => .error (.unexpected .unicodeEscape ('u' :: e :: f :: g :: h :: more))
              | some low =>
                if 0xdc00 ≤ low && low < 0xe000 then do
                  let (chars, left) ← scanText opened more
                  return (Char.ofNat (0x10000 + (unit - 0xd800) * 1024 + (low - 0xdc00)) :: chars, left)
                else single ()
          | _ => single ()
        else single ()
  | '\\' :: 'u' :: rest => .error (.unexpected .unicodeEscape ('u' :: rest))
  | ['\\'] => .error (.unexpected .stringEnd opened)
  | '\\' :: c :: rest => match simpleEscape? c with
    | none => .error (.unexpected .knownEscape ('\\' :: c :: rest))
    | some escaped => do
      let (chars, left) ← scanText opened rest
      return (escaped :: chars, left)
  | c :: rest =>
    if c.toNat < 32 then .error (.unexpected .noControl (c :: rest))
    else do
      let (chars, left) ← scanText opened rest
      return (c :: chars, left)

def digitsValue (digits : List Char) : Nat :=
  digits.foldl (fun value c => 10 * value + (c.toNat - 48)) 0

/-- A point and at least one digit, or nothing. -/
def scanFraction : List Char → Option (List Char) × List Char
  | '.' :: rest =>
    let digits := rest.takeWhile Char.isDigit
    if digits.isEmpty then (none, '.' :: rest) else (some digits, rest.dropWhile Char.isDigit)
  | rest => (none, rest)

/-- The mark of a power of ten with at least one digit, or nothing. -/
def scanPower (input : List Char) : Option Int × List Char :=
  match input with
  | [] => (none, input)
  | mark :: rest =>
    if mark ≠ 'e' && mark ≠ 'E' then (none, input)
    else
      let negative := rest.head? = some '-'
      let unsigned := if negative || rest.head? = some '+' then rest.drop 1 else rest
      let digits := unsigned.takeWhile Char.isDigit
      if digits.isEmpty then (none, input)
      else
        let value : Int := digitsValue digits
        (some (if negative then -value else value), unsigned.dropWhile Char.isDigit)

/-- A number: whole when it has neither fraction nor power of ten, and then not too long. -/
def scanNumber? (room : Room) (input : List Char) : Option (Except Stop (Json × List Char)) :=
  let negative := input.head? = some '-'
  let unsigned := if negative then input.drop 1 else input
  let whole := match unsigned with
    | '0' :: _ => ['0']
    | _ => unsigned.takeWhile Char.isDigit
  if whole.isEmpty then none
  else
    let (fraction, rest) := scanFraction (unsigned.drop whole.length)
    let (power, rest) := scanPower rest
    if fraction.isNone && power.isNone then
      if room.admits whole.length then
        let value : Int := digitsValue whole
        some (.ok (.int (if negative then -value else value), rest))
      else some (.error (.limit (room.tooLong whole.length)))
    else
      let part := fraction.getD []
      let exponent := power.getD 0 - (part.length : Int)
      let value := Decimal.ofDecimal negative ⟨digitsValue (whole ++ part), exponent⟩
      some (.ok (.float value, rest))

def scanWord? (input : List Char) : Option (Json × List Char) :=
  let word (name : String) (value : Json) : Option (Json × List Char) :=
    if name.toList.isPrefixOf input then some (value, input.drop name.length) else none
  word "null" .null <|> word "true" (.bool true) <|> word "false" (.bool false) <|>
    word "NaN" (.float (0.0 / 0.0)) <|> word "Infinity" (.float (1.0 / 0.0)) <|>
    word "-Infinity" (.float (-1.0 / 0.0))

mutual

/-- One value at the start of the text, which may lie so much deeper. Every value takes a character,
so the length of the text is fuel enough. -/
def scanValue (room : Room) (depth : Nat) : Nat → List Char → Except Stop (Json × List Char)
  | 0, input => .error (.unexpected .value input)
  | fuel + 1, input => match input with
    | '"' :: rest => do
      let (chars, left) ← scanText input rest
      return (.text (String.ofList chars), left)
    | '[' :: rest => match depth, skipSpaces rest with
      | 0, _ => .error (.limit (.depth true))
      | _, ']' :: left => .ok (.list [], left)
      | depth + 1, inside => do
        let (items, left) ← scanItems room depth fuel inside
        return (.list items, left)
    | '\x7b' :: rest => match depth, skipSpaces rest with
      | 0, _ => .error (.limit (.depth false))
      | _, '\x7d' :: left => .ok (.object [], left)
      | depth + 1, inside => do
        let (members, left) ← scanMembers room depth fuel [] inside
        return (.object members, left)
    | _ => match scanWord? input, scanNumber? room input with
      | some found, _ => .ok found
      | none, some found => found
      | none, none => .error (.unexpected .value input)

/-- The items of a list up to its closing bracket. -/
def scanItems (room : Room) (depth : Nat) : Nat → List Char → Except Stop (List Json × List Char)
  | 0, input => .error (.unexpected .value input)
  | fuel + 1, input => do
    let (item, left) ← scanValue room depth fuel input
    match skipSpaces left with
    | ']' :: left => return ([item], left)
    | ',' :: left =>
      let (items, left) ← scanItems room depth fuel (skipSpaces left)
      return (item :: items, left)
    | left => throw (.unexpected .comma left)

/-- The members of an object up to its closing brace, after those read before. -/
def scanMembers (room : Room) (depth : Nat) : Nat → List (String × Json) → List Char →
    Except Stop (List (String × Json) × List Char)
  | 0, _, input => .error (.unexpected .value input)
  | fuel + 1, before, input => match input with
    | '"' :: rest => do
      let (name, left) ← scanText input rest
      match skipSpaces left with
      | ':' :: left =>
        let (value, left) ← scanValue room depth fuel (skipSpaces left)
        let members := setMember (String.ofList name) value before
        match skipSpaces left with
        | '\x7d' :: left => return (members, left)
        | ',' :: left => scanMembers room depth fuel members (skipSpaces left)
        | left => throw (.unexpected .comma left)
      | left => throw (.unexpected .colon left)
    | _ => .error (.unexpected .propertyName input)

end

/-- What was expected, and at which character of the text, or the limit that was met. -/
inductive ReadFault where
  | unexpected (expectation : Expectation) (position : Nat)
  | limit (limit : Limit)
  deriving DecidableEq, Repr

def Stop.fault (input : List Char) : Stop → ReadFault
  | .unexpected expectation left => .unexpected expectation (input.length - left.length)
  | .limit met => .limit met

/-- Reads a text that holds one value and nothing else. -/
def readChars (room : Room) (input : List Char) : Except ReadFault Json :=
  if input.head? = some '\ufeff' then .error (.unexpected .noByteOrderMark 0)
  else match scanValue room room.reading (2 * input.length + 2) (skipSpaces input) with
    | .error stop => .error (stop.fault input)
    | .ok (value, rest) => match skipSpaces rest with
      | [] => .ok value
      | left => .error (Stop.fault input (.unexpected .endOfText left))

def read (room : Room) (input : String) : Except ReadFault Json := readChars room input.toList

def lineAt (position : Nat) (input : List Char) : Nat :=
  (input.take position).count '\n' + 1

def columnAt (position : Nat) (input : List Char) : Nat :=
  ((input.take position).reverse.takeWhile (· ≠ '\n')).length + 1

def ReadFault.message (input : String) : ReadFault → String
  | .unexpected expectation position =>
    expectation.message ++ ": line " ++ (lineAt position input.toList).repr ++ " column " ++
      (columnAt position input.toList).repr ++ " (char " ++ position.repr ++ ")"
  | .limit met => met.message

end Prism.Json
