import Prism.Check.SourceString
import Prism.Convention

namespace Prism.Source

/-- Where and why reading stopped; `atFault` when the tokens themselves ended with a fault. `reach` is
the line of the last token that was looked at. -/
structure Failure where
  line : Nat
  message : String
  atFault : Bool
  reach : Nat

abbrev Rest := List Token

/-- What an expression is, as far as assignment asks. -/
inductive Shape where
  | place (description : String)
  | starred (inner : Shape)
  | tuple (items : List Shape)
  | list (items : List Shape)
  | other (description : String) (simple : Bool)

def Shape.name : Shape := .place "name"

/-- Stops at the first token that is left. -/
def failWith {α : Type} (message : String) (rest : Rest) : Except Failure α :=
  match rest with
  | [] => .error ⟨0, message, false, 0⟩
  | token :: _ => .error ⟨token.line, message, token.kind = .fault, token.line⟩

def unexpectedIndent : String := "unexpected indent"

/-- Stops without a reason of its own. -/
def fail {α : Type} (rest : Rest) : Except Failure α :=
  match rest with
  | token :: _ => match token.kind with
    | .indent => failWith unexpectedIndent rest
    | .dedent => failWith "unexpected unindent" rest
    | _ => failWith "invalid syntax" rest
  | [] => failWith "invalid syntax" rest

/-- Stops without a reason of its own where an expression was tried that stopped further on. A reason
that the expression had wins. -/
def failAfter {α : Type} (tried : Failure) (rest : Rest) : Except Failure α :=
  if tried.atFault || tried.message ≠ "invalid syntax" then .error tried
  else match (fail rest : Except Failure α) with
    | .error failure => .error { failure with reach := max failure.reach tried.reach }
    | .ok value => .ok value

def isOperator (text : String) (rest : Rest) : Bool :=
  rest.head?.any fun token => token.kind = .operator && token.text = text

def isWord (text : String) (rest : Rest) : Bool :=
  rest.head?.any fun token => token.kind = .name && token.text = text

def isKind (kind : TokenKind) (rest : Rest) : Bool :=
  rest.head?.any fun token => token.kind = kind

def isFreeName (rest : Rest) : Bool :=
  rest.head?.any fun token => token.kind = .name && !reservedWords.contains token.text

def expectOperator (text : String) (rest : Rest) : Except Failure Rest :=
  if isOperator text rest then .ok (rest.drop 1) else fail rest

def expectWord (text : String) (rest : Rest) : Except Failure Rest :=
  if isWord text rest then .ok (rest.drop 1) else fail rest

def expectName (rest : Rest) : Except Failure Rest :=
  if isFreeName rest then .ok (rest.drop 1) else fail rest

def lineOf (rest : Rest) : Nat := (rest.head?.map (·.line)).getD 0

/-- Operators between operands, the loosest first. -/
def binaryOperators : List (List String) := [
  ["|"], ["^"], ["&"], ["<<", ">>"], ["+", "-"], ["*", "/", "//", "%", "@"]]

def comparisonOperators : List String := ["==", "!=", "<=", "<", ">=", ">"]

/-- A comparison at the start of the text: how many tokens it takes. -/
def comparisonLength (rest : Rest) : Nat :=
  if rest.head?.any fun token => token.kind = .operator && comparisonOperators.contains token.text then 1
  else if isWord "not" rest && isWord "in" (rest.drop 1) then 2
  else if isWord "in" rest then 1
  else if isWord "is" rest then (if isWord "not" (rest.drop 1) then 2 else 1)
  else 0

def startsExpression (rest : Rest) : Bool :=
  match rest with
  | [] => false
  | token :: _ => match token.kind with
    | .number | .string => true
    | .name => !reservedWords.contains token.text ||
        ["None", "True", "False", "not", "lambda", "await"].contains token.text
    | .operator => ["(", "[", "\x7b", "-", "+", "~", "...", "*"].contains token.text
    | _ => false

/-- Reads the strings that stand side by side and checks their escapes. -/
def readStrings (rest : Rest) : Except Failure (Shape × Rest) :=
  let strings := rest.takeWhile fun token => token.kind = .string
  let after := rest.dropWhile fun token => token.kind = .string
  let literals := strings.map fun token => StringLiteral.ofToken token.text
  match strings.zip literals |>.find? fun (_, literal) =>
      literal.isOctets && literal.body.any fun c => 128 ≤ c.toNat with
  | some (token, _) =>
    .error ⟨token.line, "bytes can only contain ASCII literal characters", false, token.line⟩
  | none => match literals.findSome? (·.problem?) with
    | some problem => failWith problem after
    | none =>
      if literals.any (·.isOctets) && !literals.all (·.isOctets) then
        failWith "cannot mix bytes and nonbytes literals" after
      else
        let description := if literals.any (·.isFormatted) then "f-string expression" else "literal"
        .ok (.other description true, after)

mutual

/-- An expression: an alternative, a function without a name, or an operation. -/
def expression : Nat → Rest → Except Failure (Shape × Rest)
  | 0, rest => fail rest
  | fuel + 1, rest =>
    if isWord "lambda" rest then do
      let rest ← parameters fuel ":" (rest.drop 1)
      let rest ← expectOperator ":" rest
      let (_, rest) ← expression fuel rest
      return (.other "lambda" false, rest)
    else do
      let (shape, rest) ← disjunction fuel rest
      if isWord "if" rest then
        let (_, rest) ← disjunction fuel (rest.drop 1)
        if isWord "else" rest then
          let (_, rest) ← expression fuel (rest.drop 1)
          return (.other "conditional expression" false, rest)
        else if isKind .newline rest || isOperator ")" rest || isOperator "]" rest ||
            isOperator "," rest then
          failWith "expected 'else' after 'if' expression" rest
        else fail rest
      else return (shape, rest)

def disjunction : Nat → Rest → Except Failure (Shape × Rest)
  | 0, rest => fail rest
  | fuel + 1, rest => do
    let (shape, rest) ← conjunction fuel rest
    if isWord "or" rest then
      let (_, rest) ← disjunction fuel (rest.drop 1)
      return (.other "expression" false, rest)
    else return (shape, rest)

def conjunction : Nat → Rest → Except Failure (Shape × Rest)
  | 0, rest => fail rest
  | fuel + 1, rest => do
    let (shape, rest) ← inversion fuel rest
    if isWord "and" rest then
      let (_, rest) ← conjunction fuel (rest.drop 1)
      return (.other "expression" false, rest)
    else return (shape, rest)

def inversion : Nat → Rest → Except Failure (Shape × Rest)
  | 0, rest => fail rest
  | fuel + 1, rest =>
    if isWord "not" rest then do
      let (_, rest) ← inversion fuel (rest.drop 1)
      return (.other "expression" false, rest)
    else do
      let (shape, rest) ← operation fuel 0 rest
      if comparisonLength rest = 0 then return (shape, rest)
      else
        let rest ← comparisons fuel rest
        return (.other "comparison" false, rest)

def comparisons : Nat → Rest → Except Failure Rest
  | 0, rest => fail rest
  | fuel + 1, rest => do
    let (_, rest) ← operation fuel 0 (rest.drop (comparisonLength rest))
    if comparisonLength rest = 0 then return rest else comparisons fuel rest

/-- Operations of one level and all that bind tighter. -/
def operation : Nat → Nat → Rest → Except Failure (Shape × Rest)
  | 0, _, rest => fail rest
  | fuel + 1, level, rest =>
    match binaryOperators[level]? with
    | none => factor fuel rest
    | some operators => do
      let (shape, rest) ← operation fuel (level + 1) rest
      if operators.any fun text => isOperator text rest then
        let (_, rest) ← operation fuel level (rest.drop 1)
        return (.other "expression" true, rest)
      else return (shape, rest)

def factor : Nat → Rest → Except Failure (Shape × Rest)
  | 0, rest => fail rest
  | fuel + 1, rest =>
    if isOperator "-" rest || isOperator "+" rest || isOperator "~" rest then do
      let (_, rest) ← factor fuel (rest.drop 1)
      return (.other "expression" true, rest)
    else do
      let waits := isWord "await" rest
      let (shape, rest) ← primary fuel (if waits then rest.drop 1 else rest)
      let shape := if waits then .other "await expression" true else shape
      if isOperator "**" rest then
        let (_, rest) ← factor fuel (rest.drop 1)
        return (.other "expression" true, rest)
      else return (shape, rest)

/-- An atom with its attributes, calls and subscripts. -/
def primary : Nat → Rest → Except Failure (Shape × Rest)
  | 0, rest => fail rest
  | fuel + 1, rest => do
    let (shape, rest) ← atom fuel rest
    trailers fuel shape rest

def trailers : Nat → Shape → Rest → Except Failure (Shape × Rest)
  | 0, _, rest => fail rest
  | fuel + 1, shape, rest =>
    if isOperator "." rest then do
      let rest ← expectName (rest.drop 1)
      trailers fuel (.place "attribute") rest
    else if isOperator "(" rest then do
      let rest ← arguments fuel false (rest.drop 1)
      trailers fuel (.other "function call" true) rest
    else if isOperator "[" rest then do
      let rest ← subscripts fuel (rest.drop 1)
      trailers fuel (.place "subscript") rest
    else .ok (shape, rest)

def atom : Nat → Rest → Except Failure (Shape × Rest)
  | 0, rest => fail rest
  | fuel + 1, rest =>
    match rest with
    | [] => fail rest
    | token :: after => match token.kind with
      | .number => .ok (.other "literal" true, after)
      | .string => readStrings rest
      | .name =>
        if ["None", "True", "False"].contains token.text then .ok (.other token.text false, after)
        else if reservedWords.contains token.text then fail rest
        else .ok (.name, after)
      | .operator =>
        if token.text = "..." then .ok (.other "ellipsis" true, after)
        else if token.text = "(" then
          if isOperator ")" after then .ok (.tuple [], after.drop 1)
          else if isWord "yield" after then do
            let rest ← yieldTail fuel (after.drop 1)
            let rest ← expectOperator ")" rest
            return (.other "yield expression" false, rest)
          else do
            let (items, many, rest) ← elements fuel ")" after
            match items with
            | [item] => return (if many then .tuple items else item, rest)
            | _ => return (.tuple items, rest)
        else if token.text = "[" then
          if isOperator "]" after then .ok (.list [], after.drop 1)
          else do
            let (items, _, rest) ← elements fuel "]" after
            return (.list items, rest)
        else if token.text = "\x7b" then
          if isOperator "\x7d" after then .ok (.other "dict literal" true, after.drop 1)
          else do
            let rest ← braces fuel after
            return (.other "dict literal" true, rest)
        else fail rest
      | _ => fail rest

/-- An element of a collection: an expression, one that is spread, or one that is named. -/
def element : Nat → Rest → Except Failure (Shape × Rest)
  | 0, rest => fail rest
  | fuel + 1, rest =>
    if isOperator "*" rest then do
      let (shape, rest) ← operation fuel 0 (rest.drop 1)
      return (.starred shape, rest)
    else if isFreeName rest && isOperator ":=" (rest.drop 1) then do
      let (_, rest) ← expression fuel (rest.drop 2)
      return (.other "named expression" false, rest)
    else expression fuel rest

/-- Stops in a collection that started on a line; two expressions side by side lack a comma. -/
def missingComma : Nat → Nat → Rest → Except Failure Rest
  | 0, _, rest => fail rest
  | fuel + 1, line, rest =>
    if startsExpression rest && !isOperator "*" rest then
      match expression fuel rest with
      | .ok (_, after) =>
        .error ⟨line, "invalid syntax. Perhaps you forgot a comma?", false, lineOf after⟩
      | .error tried => failAfter tried rest
    else fail rest

/-- The elements up to a closing bracket, and whether a comma stands among them. -/
def elements : Nat → String → Rest → Except Failure (List Shape × Bool × Rest)
  | 0, _, rest => fail rest
  | fuel + 1, closer, rest => do
    let line := lineOf rest
    let (item, rest) ← element fuel rest
    if isOperator closer rest then return ([item], false, rest.drop 1)
    else if isOperator "," rest then
      if isOperator closer (rest.drop 1) then return ([item], true, rest.drop 2)
      else
        let (items, _, rest) ← elements fuel closer (rest.drop 1)
        return (item :: items, true, rest)
    else if isWord "for" rest || (isWord "async" rest && isWord "for" (rest.drop 1)) then
      let rest ← comprehension fuel rest
      let rest ← expectOperator closer rest
      let description := if closer = ")" then "generator expression" else "list comprehension"
      return ([.other description false], false, rest)
    else
      let rest ← missingComma fuel line rest
      fail rest

def comprehension : Nat → Rest → Except Failure Rest
  | 0, rest => fail rest
  | fuel + 1, rest => do
    let rest := if isWord "async" rest then rest.drop 1 else rest
    let rest ← expectWord "for" rest
    let rest ← loopTargets fuel rest
    let rest ← expectWord "in" rest
    let (_, rest) ← disjunction fuel rest
    conditions fuel rest

def conditions : Nat → Rest → Except Failure Rest
  | 0, rest => fail rest
  | fuel + 1, rest =>
    if isWord "if" rest then do
      let (_, rest) ← disjunction fuel (rest.drop 1)
      conditions fuel rest
    else if isWord "for" rest || isWord "async" rest then comprehension fuel rest
    else .ok rest

def loopTargets : Nat → Rest → Except Failure Rest
  | 0, rest => fail rest
  | fuel + 1, rest => do
    let rest := if isOperator "*" rest then rest.drop 1 else rest
    let (_, rest) ← primary fuel rest
    if isOperator "," rest && !isWord "in" (rest.drop 1) then loopTargets fuel (rest.drop 1)
    else return if isOperator "," rest then rest.drop 1 else rest

/-- The elements of a set or a dictionary up to the closing brace. -/
def braces : Nat → Rest → Except Failure Rest
  | 0, rest => fail rest
  | fuel + 1, rest => do
    let line := lineOf rest
    let rest ← if isOperator "**" rest then do
        let (_, rest) ← operation fuel 0 (rest.drop 1)
        pure rest
      else do
        let (_, rest) ← element fuel rest
        if isOperator ":" rest then
          let (_, rest) ← expression fuel (rest.drop 1)
          pure rest
        else pure rest
    if isOperator "\x7d" rest then return rest.drop 1
    else if isOperator "," rest then
      if isOperator "\x7d" (rest.drop 1) then return rest.drop 2 else braces fuel (rest.drop 1)
    else if isWord "for" rest || isWord "async" rest then
      let rest ← comprehension fuel rest
      expectOperator "\x7d" rest
    else missingComma fuel line rest

/-- The arguments of a call up to its closing bracket, after named ones or not. -/
def arguments : Nat → Bool → Rest → Except Failure Rest
  | 0, _, rest => fail rest
  | fuel + 1, named, rest =>
    if isOperator ")" rest then .ok (rest.drop 1)
    else do
      let line := lineOf rest
      let spread := isOperator "**" rest
      let keyed := isFreeName rest && isOperator "=" (rest.drop 1)
      let plain := !spread && !keyed && !isOperator "*" rest
      let (_, rest) ← if spread || isOperator "*" rest then expression fuel (rest.drop 1)
        else if keyed then expression fuel (rest.drop 2)
        else element fuel rest
      if plain && named && (isOperator ")" rest || isOperator "," rest) then
        failWith "positional argument follows keyword argument" rest
      else if isOperator ")" rest then return rest.drop 1
      else if isOperator "," rest then arguments fuel (named || keyed || spread) (rest.drop 1)
      else if isWord "for" rest || isWord "async" rest then
        let rest ← comprehension fuel rest
        if isOperator "," rest then arguments fuel named (rest.drop 1)
        else expectOperator ")" rest
      else missingComma fuel line rest

def subscripts : Nat → Rest → Except Failure Rest
  | 0, rest => fail rest
  | fuel + 1, rest => do
    let line := lineOf rest
    let rest ← slice fuel rest
    if isOperator "]" rest then return rest.drop 1
    else if isOperator "," rest then
      if isOperator "]" (rest.drop 1) then return rest.drop 2 else subscripts fuel (rest.drop 1)
    else missingComma fuel line rest

/-- One subscript: an expression, or bounds with colons between them. -/
def slice : Nat → Rest → Except Failure Rest
  | 0, rest => fail rest
  | fuel + 1, rest => do
    let rest ← if isOperator ":" rest then pure rest
      else if isOperator "*" rest then Prod.snd <$> expression fuel (rest.drop 1)
      else Prod.snd <$> element fuel rest
    if isOperator ":" rest then
      let rest := rest.drop 1
      if isOperator "]" rest || isOperator "," rest then return rest else slice fuel rest
    else return rest

def yieldTail : Nat → Rest → Except Failure Rest
  | 0, rest => fail rest
  | fuel + 1, rest =>
    if isWord "from" rest then do
      let (_, rest) ← expression fuel (rest.drop 1)
      return rest
    else if startsExpression rest then do
      let (_, rest) ← expressions fuel rest
      return rest
    else .ok rest

/-- Expressions with commas between them, outside brackets. -/
def expressions : Nat → Rest → Except Failure (Shape × Rest)
  | 0, rest => fail rest
  | fuel + 1, rest => do
    let (item, rest) ← if isOperator "*" rest then do
        let (shape, rest) ← operation fuel 0 (rest.drop 1)
        pure (.starred shape, rest)
      else expression fuel rest
    if isOperator "," rest then
      let after := rest.drop 1
      if startsExpression after then
        let (others, rest) ← expressions fuel after
        match others with
        | .tuple items => return (.tuple (item :: items), rest)
        | other => return (.tuple [item, other], rest)
      else return (.tuple [item], after)
    else return (item, rest)

/-- The parameters of a function up to a closing mark, which is left. -/
def parameters : Nat → String → Rest → Except Failure Rest
  | 0, _, rest => fail rest
  | fuel + 1, closer, rest =>
    if isOperator closer rest then .ok rest
    else do
      let bare := isOperator "*" rest && isOperator "," (rest.drop 1)
      let rest ← if isOperator "/" rest then pure (rest.drop 1)
        else if bare then pure (rest.drop 1)
        else do
          let spreads := isOperator "*" rest
          let rest := if spreads || isOperator "**" rest then rest.drop 1 else rest
          let rest ← expectName rest
          let rest ← if closer = ")" && isOperator ":" rest then do
              let rest := rest.drop 1
              let rest := if spreads && isOperator "*" rest then rest.drop 1 else rest
              let (_, rest) ← expression fuel rest
              pure rest
            else pure rest
          if isOperator "=" rest then
            let (_, rest) ← expression fuel (rest.drop 1)
            pure rest
          else pure rest
      if isOperator "," rest then parameters fuel closer (rest.drop 1)
      else if isOperator closer rest then return rest
      else fail rest

end

end Prism.Source
