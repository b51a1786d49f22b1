import Prism.Document.Moment
import Prism.Number
import Prism.Room

namespace Prism.Yaml

/-- What has no value: the number of a character, a scalar that its tag does not suit, a moment, or what is too
large to be read. -/
inductive ValueFault where
  | character (code : Nat)
  | whole (base : Nat) (text : String)
  | number (text : String)
  | size (fault : NumberFault)
  | nothing
  | flag (word : String)
  | noMoment
  | momentOfEntries
  | moment (reason : String)
  | offset (minutes : Int)
  | limit (met : Limit)
  deriving DecidableEq, Repr

namespace ValueFault

def message : ValueFault → String
  | character code =>
    if code < Nat.pow 2 31 then "chr() arg not in range(0x110000)"
    else "Python int too large to convert to C int"
  | whole base text => "invalid literal for int() with base " ++ base.repr ++ ": " ++
      String.ofList ((Text.quoted text).toList.take 200)
  | number text => "could not convert string to float: " ++ Text.quoted text
  | size fault => fault.message
  | nothing => "string index out of range"
  | flag word => Text.quoted word
  | noMoment => "'NoneType' object has no attribute 'groupdict'"
  | momentOfEntries => "expected string or bytes-like object, got 'list'"
  | moment reason => reason
  | offset minutes => "offset must be a timedelta strictly between -timedelta(hours=24) and " ++
      "timedelta(hours=24), not " ++ Moment.spanLiteral minutes ++ "."
  | limit met => met.message

def kind : ValueFault → String
  | character code => if code < Nat.pow 2 31 then "ValueError" else "OverflowError"
  | size _ => "OverflowError"
  | nothing => "IndexError"
  | flag _ => "KeyError"
  | noMoment => "AttributeError"
  | momentOfEntries => "TypeError"
  | limit met => met.kind
  | _ => "ValueError"

end ValueFault

inductive Fault where
  | malformed
  | value (fault : ValueFault)
  deriving DecidableEq, Repr

def malformed {α : Type} : Except Fault α := .error .malformed

def noValue {α : Type} (fault : ValueFault) : Except Fault α := .error (.value fault)

/-- What is there, or a text that is not well formed. -/
def needed {α : Type} : Option α → Except Fault α
  | some value => .ok value
  | none => malformed

end Prism.Yaml
