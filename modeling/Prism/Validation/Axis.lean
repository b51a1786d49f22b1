import Prism.Result

namespace Prism

/-- The axes along which a result is validated, in the order of reports. -/
inductive Axis where
  | syntactic | semantics | businessLogic | platformCompliance | performance | security
  deriving DecidableEq, Repr, Inhabited

instance : Labelled Axis where
  all := [.syntactic, .semantics, .businessLogic, .platformCompliance, .performance, .security]
  label
    | .syntactic => "syntax"
    | .semantics => "semantics"
    | .businessLogic => "business_logic"
    | .platformCompliance => "platform_compliance"
    | .performance => "performance"
    | .security => "security"

def Axis.all : List Axis := Labelled.all

def Axis.names : List String := Axis.all.map label

inductive AxisSelectionError where
  | unknown (names : List String)
  | none
  deriving DecidableEq, Repr

def AxisSelectionError.message : AxisSelectionError → String
  | .unknown names => "Unknown validators requested: " ++
      String.intercalate ", " (names.mergeSort fun a b => !decide (b < a))
  | .none => "At least one validation axis must be enabled"

/-- The axis of a name, in any casing and with any separators. -/
def Axis.named? (name : String) : Option Axis := Labelled.find? (Words.key name)

/-- The axes of the given names, in the order of reports; without names, all of them. -/
def Axis.select : Option (List String) → Except AxisSelectionError (List Axis)
  | .none => .ok Axis.all
  | .some names =>
    let unknown := names.filter fun name => (Axis.named? name).isNone
    let chosen := names.filterMap Axis.named?
    if !unknown.isEmpty then .error (.unknown unknown)
    else if chosen.isEmpty then .error .none
    else .ok (Axis.all.filter chosen.contains)

end Prism
