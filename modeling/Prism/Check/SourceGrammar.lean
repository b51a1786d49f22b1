import Prism.Check.SourcePattern

namespace Prism.Source

/-- The first part of a shape that cannot be assigned to: what it is, and whether a comparison may
have been meant. -/
def wrongTarget? : Shape → Option (String × Bool)
  | .place _ => none
  | .starred inner => wrongTarget? inner
  | .tuple items => wrongTargets? items
  | .list items => wrongTargets? items
  | .other description simple => some (description, simple)
where
  wrongTargets? : List Shape → Option (String × Bool)
    | [] => none
    | item :: items => match wrongTarget? item with
      | some wrong => some (wrong.1, false)
      | none => wrongTargets? items

def augmentedOperators : List String := [
  "+=", "-=", "*=", "@=", "/=", "%=", "&=", "|=", "^=", "<<=", ">>=", "**=", "//="]

def assigned (fuel : Nat) (rest : Rest) : Except Failure (Shape × Rest) :=
  if isWord "yield" rest then do
    let rest ← yieldTail fuel (rest.drop 1)
    return (.other "yield expression" false, rest)
  else expressions fuel rest

/-- What follows the first of several places that get the same value. -/
def assignments : Nat → Shape → Rest → Except Failure Rest
  | 0, _, rest => fail rest
  | fuel + 1, shape, rest =>
    if !isOperator "=" rest then .ok rest
    else do
      let line := rest
      match wrongTarget? shape with
      | some (description, true) =>
        failWith ("cannot assign to " ++ description ++ " here. Maybe you meant '==' instead of '='?")
          line
      | some (description, false) => failWith ("cannot assign to " ++ description) line
      | none =>
        let (shape, rest) ← assigned fuel (rest.drop 1)
        assignments fuel shape rest

def expressionStatement (fuel : Nat) (rest : Rest) : Except Failure Rest := do
  let start := rest
  let (shape, rest) ← assigned fuel rest
  if isOperator ":" rest then
    let (_, after) ← expression fuel (rest.drop 1)
    let after ← if isOperator "=" after then do
        let (_, after) ← assigned fuel (after.drop 1)
        pure after
      else pure after
    match shape with
    | .place _ => return after
    | .tuple _ => failWith "only single target (not tuple) can be annotated" start
    | .list _ => failWith "only single target (not list) can be annotated" start
    | _ => failWith "illegal target for annotation" start
  else if rest.head?.any fun token =>
      token.kind = .operator && augmentedOperators.contains token.text then
    let (_, after) ← assigned fuel (rest.drop 1)
    match shape with
    | .place _ => return after
    | .tuple _ => failWith "'tuple' is an illegal expression for augmented assignment" start
    | .list _ => failWith "'list' is an illegal expression for augmented assignment" start
    | .starred _ => failWith "'starred' is an illegal expression for augmented assignment" start
    | .other description _ =>
      failWith ("'" ++ description ++ "' is an illegal expression for augmented assignment") start
  else assignments fuel shape rest

def dottedName : Nat → Rest → Except Failure Rest
  | 0, rest => fail rest
  | fuel + 1, rest => do
    let rest ← expectName rest
    if isOperator "." rest then dottedName fuel (rest.drop 1) else return rest

def importAlias (rest : Rest) : Except Failure Rest :=
  if isWord "as" rest then expectName (rest.drop 1) else .ok rest

def importedModules : Nat → Rest → Except Failure Rest
  | 0, rest => fail rest
  | fuel + 1, rest => do
    let rest ← dottedName fuel rest
    let rest ← importAlias rest
    if isOperator "," rest then importedModules fuel (rest.drop 1) else return rest

/-- The names of an import, inside brackets or not. -/
def importedNames : Nat → Bool → Rest → Except Failure Rest
  | 0, _, rest => fail rest
  | fuel + 1, inBrackets, rest => do
    let rest ← expectName rest
    let rest ← importAlias rest
    if isOperator "," rest then
      if inBrackets && isOperator ")" (rest.drop 1) then return rest.drop 1
      else if !inBrackets && isKind .newline (rest.drop 1) then
        failWith "trailing comma not allowed without surrounding parentheses" rest
      else importedNames fuel inBrackets (rest.drop 1)
    else return rest

def importFrom (fuel : Nat) (rest : Rest) : Except Failure Rest := do
  let dots := rest.takeWhile fun token => token.text = "." || token.text = "..."
  let rest := rest.drop dots.length
  let rest ← if !dots.isEmpty && isWord "import" rest then pure rest else dottedName fuel rest
  let rest ← expectWord "import" rest
  if isOperator "*" rest then return rest.drop 1
  else if isOperator "(" rest then
    let rest ← importedNames fuel true (rest.drop 1)
    expectOperator ")" rest
  else importedNames fuel false rest

def nameList : Nat → Rest → Except Failure Rest
  | 0, rest => fail rest
  | fuel + 1, rest => do
    let rest ← expectName rest
    if isOperator "," rest then nameList fuel (rest.drop 1) else return rest

/-- One statement without a block. -/
def simpleStatement (fuel : Nat) (rest : Rest) : Except Failure Rest :=
  let after := rest.drop 1
  let optional (rest : Rest) : Except Failure Rest :=
    if startsExpression rest then do return (← expressions fuel rest).2 else .ok rest
  match rest with
  | ⟨.name, "pass", _⟩ :: _ | ⟨.name, "break", _⟩ :: _ | ⟨.name, "continue", _⟩ :: _ => .ok after
  | ⟨.name, "return", _⟩ :: _ => optional after
  | ⟨.name, "raise", _⟩ :: _ =>
    if startsExpression after then do
      let (_, rest) ← expression fuel after
      if isWord "from" rest then return (← expression fuel (rest.drop 1)).2 else return rest
    else .ok after
  | ⟨.name, "global", _⟩ :: _ | ⟨.name, "nonlocal", _⟩ :: _ => nameList fuel after
  | ⟨.name, "del", _⟩ :: _ => do return (← expressions fuel after).2
  | ⟨.name, "assert", _⟩ :: _ => do
    let (_, rest) ← expression fuel after
    if isOperator "," rest then return (← expression fuel (rest.drop 1)).2 else return rest
  | ⟨.name, "import", _⟩ :: _ => importedModules fuel after
  | ⟨.name, "from", _⟩ :: _ => importFrom fuel after
  | _ => expressionStatement fuel rest

/-- Whether a statement holds no expression: it is a word alone, or a word with names. -/
def isBareStatement (rest : Rest) : Bool :=
  ["pass", "break", "continue", "global", "nonlocal", "import", "from"].any (isWord · rest)

def statementLine : Nat → Rest → Except Failure Rest
  | 0, rest => fail rest
  | fuel + 1, rest => do
    let bare := isBareStatement rest
    let rest ← simpleStatement fuel rest
    if isKind .newline rest then return rest.drop 1
    else if isOperator ";" rest then
      if isKind .newline (rest.drop 1) then return rest.drop 2 else statementLine fuel (rest.drop 1)
    else if startsExpression rest && !bare then
      match expression fuel rest with
      | .error tried => failAfter tried rest
      | .ok _ => fail rest
    else fail rest

def expectColon (rest : Rest) : Except Failure Rest :=
  if isOperator ":" rest then .ok (rest.drop 1)
  else if isKind .newline rest then failWith "expected ':'" rest
  else fail rest

/-- The items of a context statement. Inside brackets a comma may end them. -/
def contextItems : Nat → Bool → Rest → Except Failure Rest
  | 0, _, rest => fail rest
  | fuel + 1, inBrackets, rest => do
    let (_, rest) ← expression fuel rest
    let rest ← if isWord "as" rest then
        let target := rest.drop 1
        Prod.snd <$> primary fuel (if isOperator "*" target then target.drop 1 else target)
      else pure rest
    if !isOperator "," rest then return rest
    else if inBrackets && isOperator ")" (rest.drop 1) then return rest.drop 1
    else contextItems fuel inBrackets (rest.drop 1)

/-- The head of a context statement up to its colon. Brackets around all the items are tried before
brackets that belong to the first of them. -/
def contextHead (fuel : Nat) (rest : Rest) : Except Failure Rest :=
  let bracketed : Except Failure Rest :=
    if isOperator "(" rest then do
      let rest ← contextItems fuel true (rest.drop 1)
      expectColon (← expectOperator ")" rest)
    else fail rest
  match bracketed with
  | .ok rest => .ok rest
  | .error _ => do expectColon (← contextItems fuel false rest)

def matchSubject : Nat → Rest → Except Failure Rest
  | 0, rest => fail rest
  | fuel + 1, rest => do
    let (_, rest) ← element fuel rest
    if isOperator "," rest then
      let rest := rest.drop 1
      if isOperator ":" rest then return rest else matchSubject fuel rest
    else return rest

/-- The head of a match statement up to the first of its cases. The word is a name elsewhere, so that
only a head that is complete makes the statement. -/
def matchHead? (fuel : Nat) (rest : Rest) : Option Rest :=
  if !isWord "match" rest then none
  else match matchSubject fuel (rest.drop 1) with
    | .error _ => none
    | .ok rest =>
      let cases := rest.drop 3
      if isOperator ":" rest && isKind .newline (rest.drop 1) && isKind .indent (rest.drop 2) &&
          isWord "case" cases then some cases
      else none

mutual

/-- Statements up to the end of a block or of the text. -/
def statements : Nat → Rest → Except Failure Rest
  | 0, rest => fail rest
  | fuel + 1, rest =>
    if isKind .finish rest || isKind .dedent rest then .ok rest
    else do
      let rest ← statement fuel rest
      statements fuel rest

/-- A block: statements on the same line, or indented ones. -/
def block : Nat → String → Nat → Rest → Except Failure Rest
  | 0, _, _, rest => fail rest
  | fuel + 1, owner, line, rest =>
    if isKind .newline rest then
      let inner := rest.drop 1
      if isKind .indent inner then do
        let rest ← statements fuel (inner.drop 1)
        if isKind .dedent rest then return rest.drop 1 else fail rest
      else
        failWith ("expected an indented block after " ++ owner ++ " on line " ++ line.repr) inner
    else statementLine fuel rest

def otherwise : Nat → String → Rest → Except Failure Rest
  | 0, _, rest => fail rest
  | fuel + 1, word, rest =>
    if isWord word rest then do
      let line := lineOf rest
      let rest ← expectColon (rest.drop 1)
      block fuel ("'" ++ word ++ "' statement") line rest
    else .ok rest

def branches : Nat → Rest → Except Failure Rest
  | 0, rest => fail rest
  | fuel + 1, rest =>
    if isWord "elif" rest then do
      let line := lineOf rest
      let (_, rest) ← element fuel (rest.drop 1)
      let rest ← expectColon rest
      let rest ← block fuel "'elif' statement" line rest
      branches fuel rest
    else otherwise fuel "else" rest

def handlers : Nat → Rest → Except Failure Rest
  | 0, rest => fail rest
  | fuel + 1, rest =>
    if isWord "except" rest then do
      let line := lineOf rest
      let after := rest.drop 1
      let after := if isOperator "*" after then after.drop 1 else after
      let after ← if isOperator ":" after then pure after
        else do
          let (_, after) ← expression fuel after
          if isWord "as" after then expectName (after.drop 1) else pure after
      let after ← expectColon after
      let after ← block fuel "'except' statement" line after
      handlers fuel after
    else .ok rest

def function : Nat → Nat → Rest → Except Failure Rest
  | 0, _, rest => fail rest
  | fuel + 1, line, rest => do
    let rest ← expectName rest
    let rest ← if isOperator "(" rest then pure (rest.drop 1) else failWith "expected '('" rest
    let rest ← parameters fuel ")" rest
    let rest := rest.drop 1
    let rest ← if isOperator "->" rest then Prod.snd <$> expression fuel (rest.drop 1) else pure rest
    let rest ← if isOperator ":" rest then pure (rest.drop 1) else failWith "expected ':'" rest
    block fuel "function definition" line rest

def forLoop : Nat → Nat → Rest → Except Failure Rest
  | 0, _, rest => fail rest
  | fuel + 1, line, rest => do
    let rest ← loopTargets fuel rest
    let rest ← expectWord "in" rest
    let (_, rest) ← expressions fuel rest
    let rest ← expectColon rest
    let rest ← block fuel "'for' statement" line rest
    otherwise fuel "else" rest

def withBlock : Nat → Nat → Rest → Except Failure Rest
  | 0, _, rest => fail rest
  | fuel + 1, line, rest => do
    let rest ← contextHead fuel rest
    block fuel "'with' statement" line rest

def cases : Nat → Rest → Except Failure Rest
  | 0, rest => fail rest
  | fuel + 1, rest => do
    let line := lineOf rest
    let rest ← expectWord "case" rest
    let rest ← patterns fuel rest
    let rest ← if isWord "if" rest then Prod.snd <$> element fuel (rest.drop 1) else pure rest
    let rest ← expectColon rest
    let rest ← block fuel "'case' statement" line rest
    if isKind .dedent rest then return rest.drop 1 else cases fuel rest

def statement : Nat → Rest → Except Failure Rest
  | 0, rest => fail rest
  | fuel + 1, rest =>
    let line := lineOf rest
    let after := rest.drop 1
    if isOperator "@" rest then do
      let (_, rest) ← element fuel after
      if isKind .newline rest then
        let rest := rest.drop 1
        if isOperator "@" rest || isWord "def" rest || isWord "class" rest ||
            (isWord "async" rest && isWord "def" (rest.drop 1)) then statement fuel rest
        else if isWord "async" rest then fail (rest.drop 1)
        else fail rest
      else fail rest
    else if isWord "def" rest then function fuel line after
    else if isWord "async" rest then
      if isWord "def" after then function fuel line (after.drop 1)
      else if isWord "for" after then forLoop fuel line (after.drop 1)
      else if isWord "with" after then withBlock fuel line (after.drop 1)
      else fail after
    else if isWord "class" rest then do
      let rest ← expectName after
      let rest ← if isOperator "(" rest then arguments fuel false (rest.drop 1) else pure rest
      let rest ← expectColon rest
      block fuel "class definition" line rest
    else if isWord "if" rest then do
      let (_, rest) ← element fuel after
      let rest ← expectColon rest
      let rest ← block fuel "'if' statement" line rest
      branches fuel rest
    else if isWord "while" rest then do
      let (_, rest) ← element fuel after
      let rest ← expectColon rest
      let rest ← block fuel "'while' statement" line rest
      otherwise fuel "else" rest
    else if isWord "for" rest then forLoop fuel line after
    else if isWord "with" rest then withBlock fuel line after
    else if isWord "try" rest then do
      let rest ← expectColon after
      let rest ← block fuel "'try' statement" line rest
      if isWord "except" rest || isWord "finally" rest then
        let rest ← handlers fuel rest
        let rest ← otherwise fuel "else" rest
        otherwise fuel "finally" rest
      else failWith "expected 'except' or 'finally' block" rest
    else match matchHead? fuel rest with
      | some inner => cases fuel inner
      | none => statementLine fuel rest

end

/-- Reads all tokens as statements. -/
def grammarFailure? (tokens : Rest) : Option Failure :=
  let fuel := 40 * tokens.length + 40
  match statements fuel tokens with
  | .error failure => some failure
  | .ok rest => if isKind .finish rest then none
    else match (fail rest : Except Failure Unit) with
      | .error failure => some failure
      | .ok _ => none

/-- The fault of a source, if it has one. A fault of the grammar gives way to a later fault of the
characters, and to a bracket that was left open on an earlier line; an unexpected indent gives way to
none of them. -/
def fault? (text : String) : Option Fault :=
  let scanned := tokenize text.toList
  match grammarFailure? scanned.tokens with
  | none => none
  | some failure =>
    let own : Fault := ⟨failure.line, failure.message⟩
    match scanned.fault with
    | none => some own
    | some late =>
      if failure.message = unexpectedIndent then some own
      else if failure.atFault || late.ofCharacters then some late.fault
      else match late.opened with
        | some (bracket, line) =>
          if failure.reach > line then
            some ⟨line, "'" ++ String.singleton bracket ++ "' was never closed"⟩
          else some own
        | none => some own

end Prism.Source
