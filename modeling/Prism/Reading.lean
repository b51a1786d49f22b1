import Prism.Text.Utf8

namespace Prism

/-- What is found where a file should be: nothing, a directory, another file where a directory should
be on the way, a name that no file can have because it is too long or holds a null character, or the
file with its octets. -/
inductive Stored where
  | absent
  | directory
  | blocked
  | overlong
  | nullName
  | octets (values : List Nat)
  deriving DecidableEq, Repr

inductive ReadingFault where
  | absent (path : String)
  | directory (path : String)
  | blocked (path : String)
  | overlong (path : String)
  | nullName
  | encoding (fault : Text.Utf8Fault)
  deriving DecidableEq, Repr

def ReadingFault.message : ReadingFault → String
  | .absent path => "[Errno 2] No such file or directory: " ++ Text.quoted path
  | .directory path => "[Errno 21] Is a directory: " ++ Text.quoted path
  | .blocked path => "[Errno 20] Not a directory: " ++ Text.quoted path
  | .overlong path => "[Errno 36] File name too long: " ++ Text.quoted path
  | .nullName => "embedded null byte"
  | .encoding fault => fault.message

def Stored.ofText (text : String) : Stored := .octets (text.toUTF8.toList.map UInt8.toNat)

def Stored.text (path : String) : Stored → Except ReadingFault String
  | .absent => .error (.absent path)
  | .directory => .error (.directory path)
  | .blocked => .error (.blocked path)
  | .overlong => .error (.overlong path)
  | .nullName => .error .nullName
  | .octets values => match Text.decodeUtf8 values with
    | .ok text => .ok (String.ofList (Text.plainLineEnds text.toList))
    | .error fault => .error (.encoding fault)

end Prism
