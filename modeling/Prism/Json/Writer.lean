import Prism.Json.Basic
import Prism.Room
import Prism.Text.Literal

namespace Prism.Json

/-- One UTF-16 unit as an escape. -/
def unitEscape (unit : Nat) : List Char :=
  '\\' :: 'u' :: Text.hexDigits 4 unit

def escapedChar (c : Char) : List Char :=
  if c = '"' then ['\\', '"']
  else if c = '\\' then ['\\', '\\']
  else if c = '\n' then ['\\', 'n']
  else if c = '\r' then ['\\', 'r']
  else if c = '\t' then ['\\', 't']
  else if c.toNat = 8 then ['\\', 'b']
  else if c.toNat = 12 then ['\\', 'f']
  else if 32 ≤ c.toNat && c.toNat < 127 then [c]
  else if c.toNat < 0x10000 then unitEscape c.toNat
  else
    let rest := c.toNat - 0x10000
    unitEscape (0xd800 + rest / 1024) ++ unitEscape (0xdc00 + rest % 1024)

def writeText (text : String) : String :=
  String.ofList ('"' :: text.toList.flatMap escapedChar ++ ['"'])

/-- The two infinities and the undefined value have names of their own. -/
def writeFloat (x : Float) : String :=
  match Decimal.valueOf x with
  | .undefined => "NaN"
  | .infinite negative => if negative then "-Infinity" else "Infinity"
  | .finite _ => Decimal.shortText x

mutual

/-- The value on one line, with a space after each comma and colon. -/
def write : Json → String
  | .null => "null"
  | .bool b => if b then "true" else "false"
  | .int n => n.repr
  | .float x => writeFloat x
  | .text s => writeText s
  | .list items => "[" ++ String.intercalate ", " (writeItems items) ++ "]"
  | .object members => "\x7b" ++ String.intercalate ", " (writeMembers members) ++ "\x7d"

def writeItems : List Json → List String
  | [] => []
  | item :: items => item.write :: writeItems items

def writeMembers : List (String × Json) → List String
  | [] => []
  | (name, value) :: members => (writeText name ++ ": " ++ value.write) :: writeMembers members

end

/-- A line end and two spaces for each level. -/
def freshLine (level : Nat) : String :=
  String.ofList ('\n' :: List.replicate (2 * level) ' ')

/-- Parts between brackets, each on a line of its own. -/
def block (opening closing : String) (level : Nat) (parts : List String) : String :=
  if parts.isEmpty then opening ++ closing
  else
    opening ++ freshLine (level + 1) ++ String.intercalate ("," ++ freshLine (level + 1)) parts ++
      freshLine level ++ closing

mutual

/-- The value over several lines, at a level of nesting. -/
def prettyAt (level : Nat) : Json → String
  | .list items => block "[" "]" level (prettyItems (level + 1) items)
  | .object members => block "\x7b" "\x7d" level (prettyMembers (level + 1) members)
  | .null => "null"
  | .bool b => if b then "true" else "false"
  | .int n => n.repr
  | .float x => writeFloat x
  | .text s => writeText s

def prettyItems (level : Nat) : List Json → List String
  | [] => []
  | item :: items => item.prettyAt level :: prettyItems level items

def prettyMembers (level : Nat) : List (String × Json) → List String
  | [] => []
  | (name, value) :: members =>
    (writeText name ++ ": " ++ value.prettyAt level) :: prettyMembers level members

end

def pretty (value : Json) : String := value.prettyAt 0

mutual

/-- Whether all whole numbers of a value can be written. -/
def isSpelled (room : Room) : Json → Bool
  | .int n => room.spells n
  | .list items => areSpelled room items
  | .object members => membersSpelled room members
  | .null | .bool _ | .float _ | .text _ => true

def areSpelled (room : Room) : List Json → Bool
  | [] => true
  | item :: items => item.isSpelled room && areSpelled room items

def membersSpelled (room : Room) : List (String × Json) → Bool
  | [] => true
  | (_, value) :: members => value.isSpelled room && membersSpelled room members

end

mutual

/-- How many calls it takes to write a value over several lines. -/
def writingCalls : Json → Nat
  | .null | .bool _ => 0
  | .int _ | .text _ => 1
  | .float _ => 2
  | .list items => 1 + max (min items.length 1) (itemsCalls items)
  | .object members => 1 + max (min members.length 2) (membersCalls members)

def itemsCalls : List Json → Nat
  | [] => 0
  | item :: items => max item.writingCalls (itemsCalls items)

def membersCalls : List (String × Json) → Nat
  | [] => 0
  | (_, value) :: members => max value.writingCalls (membersCalls members)

end

mutual

/-- The same value with a text in place of every number that is not finite. -/
def finite : Json → Json
  | .float x => if x.isFinite then .float x else .text (writeFloat x)
  | .list items => .list (finiteItems items)
  | .object members => .object (finiteMembers members)
  | .null => .null
  | .bool b => .bool b
  | .int n => .int n
  | .text s => .text s

def finiteItems : List Json → List Json
  | [] => []
  | item :: items => item.finite :: finiteItems items

def finiteMembers : List (String × Json) → List (String × Json)
  | [] => []
  | (name, value) :: members => (name, value.finite) :: finiteMembers members

end

end Prism.Json
