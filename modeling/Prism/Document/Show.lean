import Prism.Document.Members
import Prism.Room

namespace Prism

namespace Scalar

def plain : Scalar → String
  | .null => "None"
  | .bool b => if b then "True" else "False"
  | .int n => n.repr
  | .float x => Decimal.shortText x
  | .text s => s
  | .moment m => m.text
  | .octets value => Text.quotedOctets value

/-- The value as messages quote it: texts stand in quotes. -/
def literal : Scalar → String
  | .text s => Text.quoted s
  | .moment m => m.literal
  | value => value.plain

/-- Whether the value can be written: a whole number may have too many digits. -/
def isSpelled (room : Room) : Scalar → Bool
  | .int n => room.spells n
  | _ => true

end Scalar

namespace Doc

def joined (parts : List String) : String := String.intercalate ", " parts

def membersLiteral (members : List Scalar) : String :=
  if members.isEmpty then "set()" else "\x7b" ++ joined (members.map Scalar.literal) ++ "\x7d"

/-- The mark of a collection that is being shown already. -/
def ellipsis : Doc → String
  | .map _ => "\x7b...\x7d"
  | _ => "[...]"

mutual

/-- The value as messages quote it, inside so many lists and maps that are shown too. -/
def literalIn (depth : Nat) : Doc → String
  | .scalar value => value.literal
  | .list items => "[" ++ joined (literalItems (depth + 1) items) ++ "]"
  | .map entries => "\x7b" ++ joined (literalEntries (depth + 1) entries) ++ "\x7d"
  | .tuple [item] => "(" ++ item.literalIn depth ++ ",)"
  | .tuple items => "(" ++ joined (literalItems depth items) ++ ")"
  | .set members => membersLiteral (Members.ordered members)
  | .loop value shown => (shown[depth]?).getD value.ellipsis

def literalItems (depth : Nat) : List Doc → List String
  | [] => []
  | item :: items => item.literalIn depth :: literalItems depth items

def literalEntries (depth : Nat) : List (Scalar × Doc) → List String
  | [] => []
  | (key, value) :: entries =>
    (key.literal ++ ": " ++ value.literalIn depth) :: literalEntries depth entries

end

def literal (value : Doc) : String := value.literalIn 0

def spellingLimit? (room : Room) (value : Scalar) : Option Limit :=
  if value.isSpelled room then none else some room.unspelled

mutual

/-- The limit at which showing a value ends, if so many values may be shown one inside the other. -/
def showingLimit? (room : Room) (left : Nat) : Doc → Option Limit
  | .scalar value => if left = 0 then some .showing else spellingLimit? room value
  | .list items | .tuple items => if left = 0 then some .showing else itemsLimit? room (left - 1) items
  | .map entries => if left = 0 then some .showing else entriesLimit? room (left - 1) entries
  | .set members => if left ≤ 2 then some .showing else members.findSome? (spellingLimit? room)
  | .loop _ _ => if left = 0 then some .showing else none

def itemsLimit? (room : Room) (left : Nat) : List Doc → Option Limit
  | [] => none
  | item :: items => (item.showingLimit? room left).or (itemsLimit? room left items)

def entriesLimit? (room : Room) (left : Nat) : List (Scalar × Doc) → Option Limit
  | [] => none
  | (key, value) :: entries =>
    ((spellingLimit? room key).or (value.showingLimit? room left)).or (entriesLimit? room left entries)

end

end Doc

end Prism
