import Prism.Check.SourceToken
import Prism.Json.Reader

namespace Prism.Source

/-- The body of a string literal with its letters, in small case. -/
structure StringLiteral where
  marks : List Char
  body : List Char

def StringLiteral.ofToken (text : String) : StringLiteral :=
  let chars := text.toList
  let marks := (chars.takeWhile fun c => c ≠ '"' && c ≠ '\'').map Char.toLower
  let quoted := chars.drop marks.length
  let quote := quoted.headD '"'
  let width := if quoted.length ≥ 6 && quoted.take 3 = [quote, quote, quote] then 3 else 1
  { marks, body := (quoted.drop width).take (quoted.length - 2 * width) }

/-- How many hexadecimal digits the text starts with, up to a number. -/
def hexCount (most : Nat) (text : List Char) : Nat :=
  ((text.take most).takeWhile fun c => (Json.hexValue? c).isSome).length

def hexNumber (digits : List Char) : Nat :=
  digits.foldl (fun value c => 16 * value + (Json.hexValue? c).getD 0) 0

def decodeProblem (first last : Nat) (reason : String) : String :=
  let place := if first = last then "byte 0x5c in position " ++ first.repr
    else "bytes in position " ++ first.repr ++ "-" ++ last.repr
  "(unicode error) 'unicodeescape' codec can't decode " ++ place ++ ": " ++ reason

def escapeProblem? (position digits : Nat) (reason : String) (rest : List Char) : Option String :=
  let found := hexCount digits rest
  if found < digits then some (decodeProblem position (position + 1 + found) reason)
  else if hexNumber (rest.take digits) > 0x10ffff then
    some (decodeProblem position (position + 1 + digits) "illegal Unicode character")
  else none

/-- The first escape that names no character. A character outside ASCII counts as the ten octets of
its own escape. A name of letters, digits, blanks and hyphens is taken for the name of a character. -/
def textProblem? : Nat → Nat → List Char → Option String
  | 0, _, _ => none
  | _, _, [] => none
  | fuel + 1, position, '\\' :: c :: rest =>
    let problem := match c with
      | 'x' => escapeProblem? position 2 "truncated \\xXX escape" rest
      | 'u' => escapeProblem? position 4 "truncated \\uXXXX escape" rest
      | 'U' => escapeProblem? position 8 "truncated \\UXXXXXXXX escape" rest
      | 'N' => match rest with
        | '\x7b' :: name =>
          let inner := name.takeWhile (· ≠ '\x7d')
          if inner.length = name.length || inner.isEmpty then
            let last := position + 2 + (if inner.isEmpty then 0 else inner.length)
            some (decodeProblem position last "malformed \\N character escape")
          else if inner.all fun c => c.isAlphanum || c = ' ' || c = '-' then none
          else some (decodeProblem position (position + 3 + inner.length)
            "unknown Unicode character name")
        | _ => some (decodeProblem position (position + 1) "malformed \\N character escape")
      | _ => none
    match problem with
    | some text => some text
    | none => textProblem? fuel (position + if c.toNat < 128 then 2 else 11) rest
  | fuel + 1, position, c :: rest =>
    textProblem? fuel (position + if c.toNat < 128 then 1 else 10) rest

def octetProblem? : Nat → Nat → List Char → Option String
  | 0, _, _ => none
  | _, _, [] => none
  | fuel + 1, position, '\\' :: c :: rest =>
    if c = 'x' && hexCount 2 rest < 2 then
      some ("(value error) invalid \\x escape at position " ++ position.repr)
    else octetProblem? fuel (position + 2) rest
  | fuel + 1, position, _ :: rest => octetProblem? fuel (position + 1) rest

def StringLiteral.isOctets (literal : StringLiteral) : Bool := literal.marks.contains 'b'

def StringLiteral.isFormatted (literal : StringLiteral) : Bool := literal.marks.contains 'f'

/-- The first wrong escape of a literal. Raw literals have no escapes. -/
def StringLiteral.problem? (literal : StringLiteral) : Option String :=
  if literal.marks.contains 'r' then none
  else if literal.isOctets then octetProblem? literal.body.length 0 literal.body
  else textProblem? literal.body.length 0 literal.body

end Prism.Source
