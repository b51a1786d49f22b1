import Prism.Text.Basic

namespace Prism

/-- The names on the way, and the slashes that stand for the root when it starts there. -/
structure Location where
  root : String := ""
  names : List String := []
  deriving DecidableEq, Repr

namespace Location

/-- Empty names and names of a single point do not count. Two slashes in front are a root of their
own. -/
def ofText (text : String) : Location :=
  let slashes := (text.toList.takeWhile (· = '/')).length
  { root := if slashes = 0 then "" else if slashes = 2 then "//" else "/"
    names := (Text.pieces '/' text).filter fun name => !name.isEmpty && name ≠ "." }

def isAbsolute (location : Location) : Bool := !location.root.isEmpty

def text (location : Location) : String :=
  if location.root.isEmpty && location.names.isEmpty then "."
  else location.root ++ String.intercalate "/" location.names

/-- The place of a path as seen from another place. -/
def join (base path : Location) : Location :=
  if path.isAbsolute then path else { base with names := base.names ++ path.names }

def child (base : Location) (name : String) : Location := base.join (ofText name)

def name (location : Location) : String := location.names.getLast?.getD ""

def parent (location : Location) : Location := { location with names := location.names.dropLast }

/-- The end of a name from its last point on; a point at either end of the name starts none. -/
def suffixOf (name : String) : String :=
  let chars := name.toList
  let tail := chars.reverse.takeWhile (· ≠ '.')
  if tail.isEmpty || tail.length + 1 ≥ chars.length then ""
  else String.ofList ('.' :: tail.reverse)

def suffix (location : Location) : String := suffixOf location.name

end Location

/-- Why a name with a tilde does not lead to a directory: there is no such user, or the name holds a null
character. -/
inductive HomeFault where
  | unknown
  | nullName
  deriving DecidableEq, Repr

def HomeFault.message : HomeFault → String
  | .unknown => "Could not determine home directory."
  | .nullName => "embedded null byte"

/-- The directory of the user of a name, or the own one for no name. -/
abbrev Homes := String → Option Location

/-- The path with the directory of a user for a tilde that it starts with. -/
def Location.expand (homes : Homes) (location : Location) : Except HomeFault Location :=
  let user := (location.names.headD "").toList
  if location.isAbsolute || user.head? ≠ some '~' then .ok location
  else if user.contains '\x00' then .error .nullName
  else match homes (String.ofList (user.drop 1)) with
    | none => .error .unknown
    | some home => .ok { home with names := home.names ++ location.names.drop 1 }

end Prism
