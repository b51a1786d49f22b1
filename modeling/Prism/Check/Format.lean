import Prism.Check.Brackets
import Prism.Check.SourceGrammar
import Prism.Check.Toml
import Prism.Check.Xml

namespace Prism

inductive CheckFault where
  | nullCharacter
  | number (fault : NumberFault)
  | limit (limit : Limit)
  deriving DecidableEq, Repr

def CheckFault.message : CheckFault → String
  | .nullCharacter => "source code string cannot contain null bytes"
  | .number fault => fault.message
  | .limit met => met.message

def CheckFault.kind : CheckFault → String
  | .nullCharacter => "ValueError"
  | .number _ => "OverflowError"
  | .limit met => met.kind

/-- What a check found; it is exact when a grammar was used. -/
structure Verdict where
  problem : Option String
  exact : Bool
  deriving DecidableEq, Repr

def problemAt (line : String) (message : String) : String := "line " ++ line ++ ": " ++ message

def checkForm (room : Room) (format text : String) : Except CheckFault Verdict :=
  match format with
  | "python" =>
    if text.toList.contains '\x00' then .error .nullCharacter
    else .ok ⟨(Source.fault? text).map fun fault => problemAt fault.line.repr fault.message, true⟩
  | "json" => match Json.read room text with
    | .ok _ => .ok ⟨none, true⟩
    | .error (.unexpected expectation position) =>
      .ok ⟨some (problemAt (Json.lineAt position text.toList).repr expectation.message), true⟩
    | .error (.limit limit) => .error (.limit limit)
  | "toml" => match Toml.problem? room text with
    | .ok problem => .ok ⟨problem, true⟩
    | .error limit => .error (.limit limit)
  | "xml" => .ok ⟨(Xml.flaw? text).map fun flaw => problemAt "None" flaw.text, true⟩
  | "text" => .ok ⟨none, true⟩
  | _ => .ok ⟨(Brackets.problem? text).map Brackets.Problem.message, false⟩

end Prism
