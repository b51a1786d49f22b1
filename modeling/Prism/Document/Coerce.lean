import Prism.Document.Show
import Prism.Text.Lowercase

namespace Prism.Doc

/-- Texts and numbers read as text; flags as the words `true` and `false`. -/
def text? : Doc → Option String
  | .scalar (.bool b) => some (if b then "true" else "false")
  | .scalar (.int n) => some n.repr
  | .scalar (.float x) => some (Decimal.shortText x)
  | .scalar (.text s) => some s
  | _ => none

/-- The text of a value unless it has none or an empty one. -/
def filled? (value : Doc) : Option String :=
  value.text?.filter fun text => !text.isEmpty

/-- The text of a value, or another when it has none or an empty one. -/
def textOr (otherwise : String) (value : Doc) : String :=
  value.filled?.getD otherwise

def flag : Doc → Bool
  | .scalar (.bool b) => b
  | .scalar (.text s) => ["true", "yes", "1"].contains (Text.lower (Text.strip s))
  | _ => false

/-- The choice that a text names, without regard to case and blanks around it. -/
def choice? {α : Type} [Labelled α] : Doc → Option α
  | .scalar (.text s) => Labelled.find? (Text.lower (Text.strip s))
  | _ => none

def itemText? : Doc → Option String
  | .scalar .null | .scalar (.moment _) | .scalar (.octets _) => none
  | .scalar value => some value.plain
  | _ => none

/-- Whether the text of a value, if it has one, can be written. -/
def isSpelled (room : Room) : Doc → Bool
  | .scalar value => value.isSpelled room
  | _ => true

/-- A text is a list of one; a list gives the texts of its single values, and octets are numbers. -/
def texts : Doc → List String
  | .scalar (.text s) => [s]
  | .scalar (.octets octets) => octets.map Nat.repr
  | value => value.items.filterMap itemText?

end Prism.Doc
