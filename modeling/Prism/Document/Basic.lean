import Prism.Document.Moment
import Prism.Json.Basic

namespace Prism

inductive Scalar where
  | null
  | bool (value : Bool)
  | int (value : Int)
  | float (value : Float)
  | text (value : String)
  | moment (value : Moment)
  | octets (value : List Nat)
  deriving Inhabited

/-- A value of a document. A `loop` stands for a collection that the value lies in: `value` is that
collection once more, and `shown` has its texts inside none, one, two and more of the collections
around; inside those that are left it is itself one of them. -/
inductive Doc where
  | scalar (value : Scalar)
  | list (items : List Doc)
  | map (entries : List (Scalar × Doc))
  | tuple (items : List Doc)
  | set (members : List Scalar)
  | loop (value : Doc) (shown : List String)
  deriving Inhabited

namespace Doc

abbrev null : Doc := .scalar .null
abbrev text (value : String) : Doc := .scalar (.text value)
abbrev bool (value : Bool) : Doc := .scalar (.bool value)
abbrev int (value : Int) : Doc := .scalar (.int value)
abbrev float (value : Float) : Doc := .scalar (.float value)

mutual

def ofJson : Json → Doc
  | .null => null
  | .bool b => bool b
  | .int n => int n
  | .float x => float x
  | .text s => text s
  | .list items => .list (ofJsonItems items)
  | .object members => .map (ofJsonMembers members)

def ofJsonItems : List Json → List Doc
  | [] => []
  | item :: items => ofJson item :: ofJsonItems items

def ofJsonMembers : List (String × Json) → List (Scalar × Doc)
  | [] => []
  | (name, value) :: members => (.text name, ofJson value) :: ofJsonMembers members

end

def lookup (name : String) : List (Scalar × Doc) → Option Doc
  | [] => none
  | (.text key, value) :: entries => if key = name then some value else lookup name entries
  | _ :: entries => lookup name entries

/-- The entries of a map; anything else has none. -/
def entries : Doc → List (Scalar × Doc)
  | .map entries => entries
  | .loop value _ => value.entries
  | _ => []

def list? : Doc → Option (List Doc)
  | .list items => some items
  | .loop value _ => value.list?
  | _ => none

/-- The items of a list; anything else has none. -/
def items (value : Doc) : List Doc := value.list?.getD []

/-- The value under a name, null when there is none. -/
def get (name : String) (entries : List (Scalar × Doc)) : Doc :=
  (lookup name entries).getD null

def isNull : Doc → Bool
  | .scalar .null => true
  | _ => false

/-- The first value under one of the names that is there and not null. -/
def firstOf (names : List String) (entries : List (Scalar × Doc)) : Doc :=
  (names.findSome? fun name => (lookup name entries).filter (!·.isNull)).getD null

/-- Null, false, zero, and whatever is empty do not count as given. -/
def isGiven : Doc → Bool
  | .scalar .null => false
  | .scalar (.bool b) => b
  | .scalar (.int n) => n ≠ 0
  | .scalar (.float x) => !(x == 0.0)
  | .scalar (.text s) => !s.isEmpty
  | .scalar (.moment _) => true
  | .scalar (.octets octets) => !octets.isEmpty
  | .list items | .tuple items => !items.isEmpty
  | .map entries => !entries.isEmpty
  | .set members => !members.isEmpty
  | .loop _ _ => true

end Doc

end Prism
