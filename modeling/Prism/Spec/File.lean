import Prism.Location
import Prism.Reading
import Prism.Spec.Reader
import Prism.Yaml.Value

namespace Prism

inductive SpecFileFault where
  | unreadable (path : String) (reason : ReadingFault)
  | encoding (fault : Text.Utf8Fault)
  | notYaml (name : String)
  | notJson (name : String) (reason : String)
  | home (fault : HomeFault)
  | nullName
  | value (fault : Yaml.ValueFault)
  | limit (limit : Limit)
  | document (fault : DocumentFault)

def SpecFileFault.message : SpecFileFault → String
  | .unreadable path reason => "Unable to read specification " ++ path ++ ": " ++ reason.message
  | .encoding fault => fault.message
  | .notYaml name => "Failed to parse " ++ name
  | .notJson name reason => "Failed to parse " ++ name ++ ": " ++ reason
  | .home fault => fault.message
  | .nullName => ReadingFault.nullName.message
  | .value fault => fault.message
  | .limit met => met.message
  | .document fault => fault.message

/-- Whether the file counts as an invalid specification. A user without a directory, octets that are no text, values
that cannot be made and obstacles in a document do not. -/
def SpecFileFault.isRefusal : SpecFileFault → Bool
  | .encoding _ | .home _ | .nullName | .value _ | .limit _ | .document (.stopped _) => false
  | _ => true

/-- Whether a name ends as those of YAML files do, in any case. -/
def isYamlName (name : String) : Bool :=
  [".yaml", ".yml"].contains (String.ofList ((Location.suffixOf name).toList.map Char.toLower))

def documentOf (room : Room) (name text : String) : Except SpecFileFault Doc :=
  if isYamlName name then
    (Doc.ofYaml room text).mapError fun fault => match fault with
      | .malformed => .notYaml name
      | .value fault => .value fault
  else
    match Json.read room text with
    | .ok value => .ok (Doc.ofJson value)
    | .error (.limit limit) => .error (.limit limit)
    | .error fault => .error (.notJson name (fault.message text))

/-- The specification in a file, of which the path is told in messages. A tilde in front of the path stands for the
directory of a user. -/
def Specification.ofFile (room : Room) (homes : Homes) (find : Location → Stored) (path : Location) :
    Except SpecFileFault Specification := do
  let path ← (path.expand homes).mapError .home
  let text ← ((find path).text path.text).mapError fun fault => match fault with
    | .encoding fault => .encoding fault
    | .nullName => .nullName
    | other => .unreadable path.text other
  let document ← documentOf room path.name text
  (Specification.ofDoc room document).mapError .document

end Prism
