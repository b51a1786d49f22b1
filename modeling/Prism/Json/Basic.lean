import Prism.Number

namespace Prism

inductive Json where
  | null
  | bool (value : Bool)
  | int (value : Int)
  | float (value : Float)
  | text (value : String)
  | list (items : List Json)
  | object (members : List (String × Json))
  deriving Inhabited

namespace Json

def ofNumber : Number → Json
  | .int n => .int n
  | .float x => .float x

def ofNat (n : Nat) : Json := .int n

def texts (items : List String) : Json := .list (items.map .text)

def ofOption {α : Type} (encode : α → Json) : Option α → Json
  | none => .null
  | some value => encode value

def lookup (name : String) : List (String × Json) → Option Json
  | [] => none
  | (key, value) :: members => if key = name then some value else lookup name members

/-- A member of an object; anything else has none. -/
def member? (name : String) : Json → Option Json
  | .object members => lookup name members
  | _ => none

/-- Gives a member a value: in place when the name is there, at the end otherwise. -/
def setMember (name : String) (value : Json) : List (String × Json) → List (String × Json)
  | [] => [(name, value)]
  | (key, old) :: members =>
    if key = name then (key, value) :: members else (key, old) :: setMember name value members

def isObject : Json → Bool
  | .object _ => true
  | _ => false

def sortMembers (members : List (String × Json)) : List (String × Json) :=
  members.mergeSort fun a b => a.1 ≤ b.1

mutual

/-- The same value with the members of every object in the order of their names. -/
def sorted : Json → Json
  | .list items => .list (sortedItems items)
  | .object members => .object (sortMembers (sortedMembers members))
  | .null => .null
  | .bool b => .bool b
  | .int n => .int n
  | .float x => .float x
  | .text s => .text s

def sortedItems : List Json → List Json
  | [] => []
  | item :: items => item.sorted :: sortedItems items

def sortedMembers : List (String × Json) → List (String × Json)
  | [] => []
  | (name, value) :: members => (name, value.sorted) :: sortedMembers members

end

end Json

end Prism
