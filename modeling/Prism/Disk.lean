import Prism.Location
import Prism.Reading

namespace Prism

/-- The names from the root on. -/
abbrev Place := List String

structure Disk where
  base : Place
  files : List (Place × List Nat) := []
  deriving DecidableEq, Repr

inductive WritingFault where
  | occupied (path : String)
  | blocked (path : String)
  | directory (path : String)
  | overlong (path : String)
  | nullName
  deriving DecidableEq, Repr

def WritingFault.message : WritingFault → String
  | .occupied path => "[Errno 17] File exists: " ++ Text.quoted path
  | .blocked path => "[Errno 20] Not a directory: " ++ Text.quoted path
  | .directory path => "[Errno 21] Is a directory: " ++ Text.quoted path
  | .overlong path => "[Errno 36] File name too long: " ++ Text.quoted path
  | .nullName => "embedded null byte"

namespace Disk

/-- The most octets that a name, and a whole path, can have. -/
def longestName : Nat := 255

def longestPath : Nat := 4095

def isOverlong (name : String) : Bool := longestName < name.utf8ByteSize

def hasNull (path : Location) : Bool := path.names.any (·.toList.contains '\x00')

def file? (disk : Disk) (place : Place) : Option (List Nat) := disk.files.lookup place

def isDirectory (disk : Disk) (place : Place) : Bool :=
  place.isPrefixOf disk.base ||
    disk.files.any fun (other, _) => place.isPrefixOf other && place ≠ other

/-- Where the names of a path lead, with two points for one step back, whether anything is there or
not. -/
def normal (start : Place) (names : List String) : Place :=
  names.foldl (fun place name => if name = ".." then place.dropLast else place ++ [name]) start

def startOf (disk : Disk) (path : Location) : Place := if path.isAbsolute then [] else disk.base

/-- The place that a path names, as far as names go. -/
def placeOf (disk : Disk) (path : Location) : Place := normal (disk.startOf path) path.names

def stored (disk : Disk) (place : Place) : Stored :=
  match disk.file? place with
  | some octets => .octets octets
  | none => if disk.isDirectory place then .directory else .absent

/-- What is found on the way along the names; each step needs a directory to start from. -/
def along (disk : Disk) (place : Place) : List String → Stored
  | [] => disk.stored place
  | name :: names => match disk.stored place with
    | .directory =>
      if isOverlong name then .overlong else
      disk.along (if name = ".." then place.dropLast else place ++ [name]) names
    | .octets _ => .blocked
    | other => other

def find (disk : Disk) (path : Location) : Stored :=
  if hasNull path then .nullName
  else if longestPath < path.text.utf8ByteSize then .overlong
  else disk.along (disk.startOf path) path.names

/-- The absolute form of a path without steps back. -/
def resolve (disk : Disk) (path : Location) : Location :=
  { root := if path.isAbsolute then path.root else "/", names := disk.placeOf path }

/-- The path as it is told: from the working directory when it lies in there. -/
def shown (disk : Disk) (path : Location) : String :=
  let place := disk.placeOf path
  if disk.base.isPrefixOf place then Location.text { names := place.drop disk.base.length }
  else path.text

/-- The way to a place from the working directory. -/
def wayTo (disk : Disk) (place : Place) : String :=
  let common := ((place.zip disk.base).takeWhile fun (a, b) => a = b).length
  String.intercalate "/"
    (List.replicate (disk.base.length - common) ".." ++ place.drop common)

/-- The files that are new or other than they were before. -/
def changes (before after : Disk) : List (Place × List Nat) :=
  after.files.filter fun (place, octets) => before.file? place ≠ some octets

/-- Whether a file stands on the way to a place. -/
def isBlocked (disk : Disk) (place : Place) : Bool :=
  (List.range place.length).any fun count => (disk.file? (place.take count)).isSome

/-- What is told of a path with a name that is too long: of a directory that would be made on the
way only as much as is tried. -/
def overlong? (disk : Disk) (path : Location) : Option String :=
  let before := path.parent.names.takeWhile (!isOverlong ·)
  if before.length < path.parent.names.length then
    let reached : Location := { path with names := before }
    some (if disk.isDirectory (disk.placeOf reached) then path.parent.text
      else Location.text { path with names := path.names.take (before.length + 1) })
  else if isOverlong path.name then some path.text
  else none

/-- Puts octets into a file, making the directories on the way. -/
def put (disk : Disk) (path : Location) (octets : List Nat) : Except WritingFault Disk :=
  let parent := disk.placeOf path.parent
  let place := disk.placeOf path
  if hasNull path then .error .nullName
  else if let some shown := disk.overlong? path then .error (.overlong shown)
  else if (disk.file? parent).isSome then .error (.occupied path.parent.text)
  else if disk.isBlocked parent then .error (.blocked path.parent.text)
  else if disk.isDirectory place then .error (.directory path.text)
  else
    .ok { disk with files := (place, octets) :: disk.files.filter fun (other, _) => other ≠ place }

def octetsOf (text : String) : List Nat := text.toUTF8.toList.map UInt8.toNat

def write (disk : Disk) (path : Location) (text : String) : Except WritingFault Disk :=
  disk.put path (octetsOf text)

def append (disk : Disk) (path : Location) (text : String) : Except WritingFault Disk :=
  disk.put path ((disk.file? (disk.placeOf path)).getD [] ++ octetsOf text)

end Disk

end Prism
