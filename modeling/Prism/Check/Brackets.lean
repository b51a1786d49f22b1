import Prism.Text.Basic

namespace Prism.Brackets

inductive Problem where
  | unbalanced (bracket : Char) (line : Nat)
  | unclosed (count : Nat)
  deriving DecidableEq, Repr

def Problem.message : Problem → String
  | .unbalanced bracket line =>
    "unbalanced '" ++ String.singleton bracket ++ "' on line " ++ line.repr
  | .unclosed count => count.repr ++ " unclosed bracket(s)"

/-- The opening bracket of a closing one. -/
def opener? : Char → Option Char
  | ')' => some '('
  | ']' => some '['
  | '\x7d' => some '\x7b'
  | _ => none

def isOpener (c : Char) : Bool := c = '(' || c = '[' || c = '\x7b'

/-- Reads the text on a line with the brackets that are open, the last opened first. -/
def scan (line : Nat) (opened : List Char) : List Char → Option Problem
  | [] => if opened.isEmpty then none else some (.unclosed opened.length)
  | '\r' :: '\n' :: rest => scan (line + 1) opened rest
  | c :: rest =>
    if Text.endsLine c then scan (line + 1) opened rest
    else if isOpener c then scan line (c :: opened) rest
    else match opener? c with
      | none => scan line opened rest
      | some opener => match opened with
        | [] => some (.unbalanced c line)
        | last :: others =>
          if last = opener then scan line others rest else some (.unbalanced c line)

def problem? (text : String) : Option Problem := scan 1 [] text.toList

end Prism.Brackets
