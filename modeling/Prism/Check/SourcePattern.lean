import Prism.Check.SourceExpression

namespace Prism.Source

/-- A name to which a part of the subject is given. -/
def captureTarget (rest : Rest) : Except Failure Rest := do
  let after ← expectName rest
  if isWord "_" rest || isOperator "." after || isOperator "(" after || isOperator "=" after then
    fail after
  else return after

/-- A number, with a sign or not, and the number that a sign adds to it. -/
def numberPattern (rest : Rest) : Except Failure Rest :=
  let unsigned := if isOperator "-" rest then rest.drop 1 else rest
  if !isKind .number unsigned then fail unsigned
  else
    let rest := unsigned.drop 1
    if !isOperator "+" rest && !isOperator "-" rest then .ok rest
    else if isKind .number (rest.drop 1) then .ok (rest.drop 2)
    else fail (rest.drop 1)

def startsLiteral (rest : Rest) : Bool :=
  isKind .number rest || isKind .string rest || isOperator "-" rest ||
    ["None", "True", "False"].any (isWord · rest)

def literalPattern (rest : Rest) : Except Failure Rest :=
  if isKind .string rest then Prod.snd <$> readStrings rest
  else if isKind .number rest || isOperator "-" rest then numberPattern rest
  else if ["None", "True", "False"].any (isWord · rest) then .ok (rest.drop 1)
  else fail rest

/-- Names with dots between them, and how many there are. -/
def nameChain : Nat → Rest → Except Failure (Nat × Rest)
  | 0, rest => fail rest
  | fuel + 1, rest => do
    let rest ← expectName rest
    if isOperator "." rest then
      let (count, rest) ← nameChain fuel (rest.drop 1)
      return (count + 1, rest)
    else return (1, rest)

mutual

/-- A pattern: alternatives, and a name for what they meet. -/
def pattern : Nat → Rest → Except Failure Rest
  | 0, rest => fail rest
  | fuel + 1, rest => do
    let rest ← alternatives fuel rest
    if isWord "as" rest then captureTarget (rest.drop 1) else return rest

def alternatives : Nat → Rest → Except Failure Rest
  | 0, rest => fail rest
  | fuel + 1, rest => do
    let rest ← closedPattern fuel rest
    if isOperator "|" rest then alternatives fuel (rest.drop 1) else return rest

/-- A pattern that needs no brackets beside others: a value, a name, a class, or a collection. -/
def closedPattern : Nat → Rest → Except Failure Rest
  | 0, rest => fail rest
  | fuel + 1, rest =>
    if startsLiteral rest then literalPattern rest
    else if isOperator "[" rest then
      if isOperator "]" (rest.drop 1) then .ok (rest.drop 2)
      else do expectOperator "]" (← sequence fuel "]" (rest.drop 1)).2
    else if isOperator "(" rest then
      if isOperator ")" (rest.drop 1) then .ok (rest.drop 2)
      else do
        let stars := isOperator "*" (rest.drop 1)
        let (many, rest) ← sequence fuel ")" (rest.drop 1)
        if stars && !many then fail rest else expectOperator ")" rest
    else if isOperator "\x7b" rest then mappingItems fuel (rest.drop 1)
    else do
      let (_, rest) ← nameChain fuel rest
      if isOperator "(" rest then classItems fuel false (rest.drop 1) else return rest

/-- The parts of a sequence up to a closing mark, which is left, and whether a comma stands among
them. -/
def sequence : Nat → String → Rest → Except Failure (Bool × Rest)
  | 0, _, rest => fail rest
  | fuel + 1, closer, rest => do
    let rest ← if isOperator "*" rest then
        if isWord "_" (rest.drop 1) then pure (rest.drop 2) else captureTarget (rest.drop 1)
      else pattern fuel rest
    if !isOperator "," rest then return (false, rest)
    else
      let rest := rest.drop 1
      if isOperator closer rest || (closer = ":" && isWord "if" rest) then return (true, rest)
      else
        let (_, rest) ← sequence fuel closer rest
        return (true, rest)

/-- The items of a mapping up to the closing brace; the rest of the mapping stands last. -/
def mappingItems : Nat → Rest → Except Failure Rest
  | 0, rest => fail rest
  | fuel + 1, rest =>
    if isOperator "\x7d" rest then .ok (rest.drop 1)
    else if isOperator "**" rest then do
      let rest ← captureTarget (rest.drop 1)
      expectOperator "\x7d" (if isOperator "," rest then rest.drop 1 else rest)
    else do
      let rest ← if startsLiteral rest then literalPattern rest
        else do
          let (count, after) ← nameChain fuel rest
          if count = 1 then fail rest else pure after
      let rest ← pattern fuel (← expectOperator ":" rest)
      if isOperator "," rest then mappingItems fuel (rest.drop 1) else expectOperator "\x7d" rest

/-- The parts of a class up to the closing bracket, after named ones or not. -/
def classItems : Nat → Bool → Rest → Except Failure Rest
  | 0, _, rest => fail rest
  | fuel + 1, named, rest =>
    if isOperator ")" rest then .ok (rest.drop 1)
    else do
      let keyed := isFreeName rest && isOperator "=" (rest.drop 1)
      if named && !keyed then
        failWith "positional patterns follow keyword patterns" rest
      else
        let rest ← pattern fuel (if keyed then rest.drop 2 else rest)
        if isOperator "," rest then classItems fuel keyed (rest.drop 1) else expectOperator ")" rest

end

/-- What a case meets: one pattern, or the parts of a sequence without brackets. -/
def patterns (fuel : Nat) (rest : Rest) : Except Failure Rest := do
  let stars := isOperator "*" rest
  let (many, after) ← sequence fuel ":" rest
  if stars && !many then fail after else return after

end Prism.Source
