import Prism.Document.Show

namespace Prism

/-- Why two values have no order: they are of different kinds or of one without an order, a day
stands beside an instant, or only one of two instants has its distance from universal time. -/
inductive OrderFault where
  | kinds (first second : String)
  | dayAndInstant
  | offsets
  deriving DecidableEq, Repr

def OrderFault.message : OrderFault → String
  | .kinds first second =>
    "'<' not supported between instances of '" ++ first ++ "' and '" ++ second ++ "'"
  | .dayAndInstant => "can't compare datetime.datetime to datetime.date"
  | .offsets => "can't compare offset-naive and offset-aware datetimes"

def Scalar.kindName : Scalar → String
  | .null => "NoneType"
  | .bool _ => "bool"
  | .int _ => "int"
  | .float _ => "float"
  | .text _ => "str"
  | .moment (.date _) => "datetime.date"
  | .moment (.instant _ _) => "datetime.datetime"
  | .octets _ => "bytes"

def Moment.less : Moment → Moment → Except OrderFault Bool
  | .date a, .date b => .ok (a.number < b.number)
  | .instant a c, .instant b d =>
    if c.offset.isSome = d.offset.isSome then .ok (microseconds a c < microseconds b d)
    else .error .offsets
  | _, _ => .error .dayAndInstant

def Scalar.less (a b : Scalar) : Except OrderFault Bool :=
  match a, b with
  | .text s, .text t => .ok (s < t)
  | .octets s, .octets t => .ok (s < t)
  | .moment m, .moment n => m.less n
  | a, b => match a.count?, b.count? with
    | some m, some n => .ok (m.lt n)
    | _, _ => .error (.kinds a.kindName b.kindName)

namespace Doc

def kindName : Doc → String
  | .scalar value => value.kindName
  | .list _ => "list"
  | .map _ => "dict"
  | .tuple _ => "tuple"
  | .set _ => "set"
  | .loop value _ => value.kindName

mutual

/-- Whether a value comes before another. Collections are compared at the first place where they are
not the same, and sets by what they hold. -/
def less : Doc → Doc → Except OrderFault Bool
  | .scalar a, .scalar b => a.less b
  | .list a, .list b => lessItems a b
  | .tuple a, .tuple b => lessItems a b
  | .set a, .set b => .ok (a.length < b.length && a.all fun member => b.any member.same)
  | a, b => .error (.kinds a.kindName b.kindName)

def lessItems : List Doc → List Doc → Except OrderFault Bool
  | [], others => .ok (!others.isEmpty)
  | _ :: _, [] => .ok false
  | a :: as, b :: bs => if a.same b then lessItems as bs else less a b

end

end Doc

end Prism
