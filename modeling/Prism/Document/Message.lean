import Prism.Document.Show

namespace Prism.Message

/-- How a value is put into its place: on which side it stands, what stands before a number that is
not negative, what fills the place up, and whether the form of a number is always told. -/
structure Place where
  left : Bool := false
  plus : Bool := false
  blank : Bool := false
  zeros : Bool := false
  marked : Bool := false
  width : Nat := 0
  precision : Option Nat := none
  kind : Char := 's'

/-- The values that places can still take, in order or by name. -/
structure Values where
  queue : List Doc
  named : Option (List (Scalar × Doc)) := none

namespace Values

/-- The values given with a message. A single mapping that holds something gives its values by
name. -/
def given : List Doc → Values
  | [.map (entry :: entries)] =>
    { queue := [.map (entry :: entries)], named := some (entry :: entries) }
  | values => { queue := values }

def next? (values : Values) : Option (Doc × Values) :=
  match values.queue with
  | [] => none
  | value :: queue => some (value, { values with queue })

/-- The value of a name is the only one that the place can take. -/
def select? (values : Values) (name : String) : Option Values := do
  let value ← Doc.lookup name (← values.named)
  return { values with queue := [value] }

/-- Values in order have to be taken all. -/
def isSpent (values : Values) : Bool := values.queue.isEmpty || values.named.isSome

end Values

def digitsValue (digits : List Char) : Nat :=
  digits.foldl (fun value c => 10 * value + (c.toNat - 48)) 0

/-- The name up to the closing parenthesis; parentheses inside it are in pairs. -/
def readName : Nat → List Char → Option (List Char × List Char)
  | _, [] => none
  | 0, ')' :: rest => some ([], rest)
  | depth, c :: rest =>
    let inner := if c = '(' then depth + 1 else if c = ')' then depth - 1 else depth
    (readName inner rest).map fun (name, after) => (c :: name, after)

/-- A place that is given a size by the next value. -/
def sizeOf? (values : Values) : Option (Int × Values) :=
  match values.next? with
  | some (.scalar (.int n), others) => some (n, others)
  | some (.scalar (.bool b), others) => some (if b then 1 else 0, others)
  | _ => none

def readWidth (place : Place) (text : List Char) (values : Values) :
    Option (Place × List Char × Values) :=
  match text with
  | '*' :: rest => do
    let (width, others) ← sizeOf? values
    return ({ place with left := place.left || width < 0, width := width.natAbs }, rest, others)
  | _ =>
    let width := digitsValue (text.takeWhile Char.isDigit)
    some ({ place with width }, text.dropWhile Char.isDigit, values)

def readPrecision (place : Place) (text : List Char) (values : Values) :
    Option (Place × List Char × Values) :=
  match text with
  | '.' :: '*' :: rest => do
    let (precision, others) ← sizeOf? values
    return ({ place with precision := some precision.toNat }, rest, others)
  | '.' :: rest =>
    let precision := digitsValue (rest.takeWhile Char.isDigit)
    some ({ place with precision := some precision }, rest.dropWhile Char.isDigit, values)
  | _ => some (place, text, values)

/-- The place after a percent sign, what follows it, and the values it leaves. -/
def readPlace (text : List Char) (values : Values) : Option (Place × List Char × Values) := do
  let (text, values) ← match text with
    | '(' :: rest => do
      let (name, after) ← readName 0 rest
      pure (after, ← values.select? (String.ofList name))
    | _ => some (text, values)
  let isFlag (c : Char) : Bool := c = '-' || c = '+' || c = ' ' || c = '0' || c = '#'
  let flags := text.takeWhile isFlag
  let place : Place := {
    left := flags.contains '-'
    plus := flags.contains '+'
    blank := flags.contains ' '
    zeros := flags.contains '0'
    marked := flags.contains '#' }
  let (place, text, values) ← readWidth place (text.dropWhile isFlag) values
  let (place, text, values) ← readPrecision place text values
  let text := match text with
    | c :: rest => if c = 'h' || c = 'l' || c = 'L' then rest else text
    | [] => []
  match text with
  | kind :: after => some ({ place with kind }, after, values)
  | [] => none

/-- A number with its sign, the mark of its base and its digits. -/
structure Figure where
  negative : Bool
  mark : String := ""
  digits : String

def Figure.ofText (text : String) : Figure :=
  match text.toList with
  | '-' :: digits => { negative := true, digits := String.ofList digits }
  | _ => { negative := false, digits := text }

/-- As many of a character as a text lacks to fill the place. -/
def Place.filling (place : Place) (c : Char) (text : String) : String :=
  String.ofList (List.replicate (place.width - text.length) c)

/-- A text in its place, cut to the precision. -/
def Place.text (place : Place) (text : String) : String :=
  let cut := match place.precision with
    | some most => String.ofList (text.toList.take most)
    | none => text
  if place.left then cut ++ place.filling ' ' cut else place.filling ' ' cut ++ cut

/-- A number in its place. Zeros stand between its sign and its digits. -/
def Place.figure (place : Place) (figure : Figure) : String :=
  let sign := if figure.negative then "-" else if place.plus then "+"
    else if place.blank then " " else ""
  let whole := sign ++ figure.mark ++ figure.digits
  if place.left then whole ++ place.filling ' ' whole
  else if place.zeros then sign ++ figure.mark ++ place.filling '0' whole ++ figure.digits
  else place.filling ' ' whole ++ whole

/-- A whole number by its digits in a base, at least as many as the precision tells. -/
def Place.whole (place : Place) (base : Nat) (mark : String) (n : Int) : String :=
  let digits := String.ofList (Nat.toDigits base n.natAbs)
  let zeros := String.ofList (List.replicate (place.precision.getD 0 - digits.length) '0')
  place.figure {
    negative := n < 0
    mark := if place.marked then mark else ""
    digits := zeros ++ digits }

/-- A whole number: of a fraction what stands before the point. -/
def wholeNumber? : Doc → Option Int
  | .scalar (.int n) => some n
  | .scalar (.bool b) => some (if b then 1 else 0)
  | .scalar (.float x) => match Decimal.valueOf x with
    | .finite d =>
      let (num, den) := d.ratio
      some (if d.negative then -(num / den : Nat) else (num / den : Nat))
    | _ => none
  | _ => none

/-- A value that counts; a fraction does not. -/
def exactWhole? : Doc → Option Int
  | .scalar (.int n) => some n
  | .scalar (.bool b) => some (if b then 1 else 0)
  | _ => none

def float? : Doc → Option Float
  | .scalar (.int n) => (Number.int n).toFloat.toOption
  | .scalar (.bool b) => some (if b then 1.0 else 0.0)
  | .scalar (.float x) => some x
  | _ => none

/-- A single character, given as such or by its number. -/
def character? : Doc → Option String
  | .scalar (.text s) => if s.length = 1 then some s else none
  | value => do
    let n ← exactWhole? value
    if 0 ≤ n && n.toNat.isValidChar then some (String.singleton (Char.ofNat n.toNat)) else none

/-- The text of a value on its own; collections as they are quoted. -/
def plainText : Doc → String
  | .scalar value => value.plain
  | other => other.literal

def capital (text : String) : String := String.ofList (text.toList.map Char.toUpper)

/-- A value in its place, unless it is of another kind. -/
def Place.written (place : Place) (value : Doc) : Option String :=
  let places := place.precision.getD 6
  let number (text : Float → String) : Option String :=
    (float? value).map fun x => place.figure (Figure.ofText (text x))
  match place.kind with
  | 's' => some (place.text (plainText value))
  | 'r' => some (place.text value.literal)
  | 'a' => some (place.text (Text.inAscii value.literal))
  | 'd' | 'i' | 'u' => (wholeNumber? value).map (place.whole 10 "")
  | 'o' => (exactWhole? value).map (place.whole 8 "0o")
  | 'x' => (exactWhole? value).map (place.whole 16 "0x")
  | 'X' => (exactWhole? value).map fun n => capital (place.whole 16 "0x" n)
  | 'f' => number (Decimal.fixedForm place.marked places)
  | 'F' => number (capital ∘ Decimal.fixedForm place.marked places)
  | 'e' => number (Decimal.exponentForm place.marked places)
  | 'E' => number (capital ∘ Decimal.exponentForm place.marked places)
  | 'g' => number (Decimal.generalForm place.marked (max 1 places))
  | 'G' => number (capital ∘ Decimal.generalForm place.marked (max 1 places))
  | 'c' => (character? value).map { place with precision := none }.text
  | _ => none

/-- Puts values into the places of a message, each into one. -/
def fill : Nat → List Char → Values → Option String
  | _, [], values => if values.isSpent then some "" else none
  | 0, _, _ => none
  | fuel + 1, '%' :: rest, values => do
    let (place, after, values) ← readPlace rest values
    if place.kind = '%' then return "%" ++ (← fill fuel after values)
    else
      let (value, others) ← values.next?
      return (← place.written value) ++ (← fill fuel after others)
  | fuel + 1, c :: rest, values => do return String.singleton c ++ (← fill fuel rest values)

/-- The message for its values. A message without values stands as it is. -/
def format (message : String) (values : List Doc) : Option String :=
  if values.isEmpty then some message
  else fill (message.length + 1) message.toList (Values.given values)

end Prism.Message
