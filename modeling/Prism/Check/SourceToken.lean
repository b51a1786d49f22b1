import Prism.Text.Identifier
import Prism.Text.Literal

namespace Prism.Source

inductive TokenKind where
  | name | number | string | operator | newline | indent | dedent | finish | fault
  deriving DecidableEq, Repr

/-- A token with its line. The text of a number is not kept. -/
structure Token where
  kind : TokenKind
  text : String
  line : Nat
  deriving DecidableEq, Repr

structure Fault where
  line : Nat
  message : String
  deriving DecidableEq, Repr

/-- A fault that ends the tokens. A fault of characters takes precedence over an earlier fault of
the grammar; the others do so only for a bracket left open before it. -/
structure TokenFault where
  fault : Fault
  ofCharacters : Bool
  opened : Option (Char × Nat)
  deriving DecidableEq, Repr

def startsName (c : Char) : Bool := c.isAlpha || c = '_' || 128 ≤ c.toNat

def continuesName (c : Char) : Bool := startsName c || c.isDigit

/-- A code point as messages give it: at least four digits to base sixteen, in capitals. -/
def codePoint (c : Char) : String :=
  "U+" ++ String.ofList ((Text.hexDigits 4 c.toNat).map Char.toUpper)

/-- The first character of a name that a name cannot have at its place. -/
def misplaced? (name : List Char) : Option Char :=
  match name with
  | [] => none
  | first :: others =>
    if !Text.startsIdentifier first then some first
    else others.find? fun c => !Text.continuesIdentifier c

def nameFault? (name : List Char) : Option String :=
  (misplaced? name).map fun c =>
    if Text.isPrintable c then
      "invalid character '" ++ String.singleton c ++ "' (" ++ codePoint c ++ ")"
    else "invalid non-printable character " ++ codePoint c

def startsFollowingWord (text : List Char) : Bool :=
  ["and", "else", "for", "if", "in", "is", "or", "not"].any fun word =>
    word.toList.isPrefixOf text

/-- The end of a number: no name may follow it directly. -/
def endNumber (kind : String) (rest : List Char) : Except String (List Char) :=
  match rest with
  | [] => .ok []
  | c :: _ =>
    if startsFollowingWord rest then .ok rest
    else if continuesName c then .error ("invalid " ++ kind ++ " literal")
    else .ok rest

def leadingDigit (text : List Char) : Bool := text.head?.any Char.isDigit

/-- Digits with single underscores between them. -/
def decimalTail : Nat → List Char → Except String (List Char)
  | 0, rest => .ok rest
  | fuel + 1, text =>
    match text.dropWhile Char.isDigit with
    | '_' :: rest =>
      if leadingDigit rest then decimalTail fuel rest else .error "invalid decimal literal"
    | rest => .ok rest

/-- What follows the digits, the fraction and the power of ten. -/
def endDecimal (rest : List Char) : Except String (List Char) :=
  match rest with
  | c :: after =>
    if c = 'j' || c = 'J' then endNumber "imaginary" after else endNumber "decimal" rest
  | [] => .ok []

def scanExponent (text : List Char) : Except String (List Char) :=
  match text with
  | c :: rest =>
    if c = 'e' || c = 'E' then
      match rest with
      | '+' :: after | '-' :: after =>
        if leadingDigit after then do endDecimal (← decimalTail after.length after)
        else .error "invalid decimal literal"
      | _ =>
        if leadingDigit rest then do endDecimal (← decimalTail rest.length rest)
        else endNumber "decimal" text
    else endDecimal text
  | [] => .ok []

/-- A fraction, if there is one, and what follows. -/
def scanAfterDigits (text : List Char) : Except String (List Char) :=
  match text with
  | '.' :: rest => do
    let rest ← if leadingDigit rest then decimalTail rest.length rest else .ok rest
    scanExponent rest
  | _ => scanExponent text

/-- Digits to another base, with single underscores in front of them or between them. -/
def scanBase (kind : String) (isDigit : Char → Bool) : Nat → List Char → Except String (List Char)
  | 0, rest => .ok rest
  | fuel + 1, text =>
    let text := if text.head? = some '_' then text.drop 1 else text
    let wrongDigit (c : Char) : String :=
      "invalid digit '" ++ String.singleton c ++ "' in " ++ kind ++ " literal"
    match text with
    | c :: _ =>
      if !isDigit c then
        .error (if c.isDigit then wrongDigit c else "invalid " ++ kind ++ " literal")
      else match text.dropWhile isDigit with
        | '_' :: rest => scanBase kind isDigit fuel ('_' :: rest)
        | rest =>
          if leadingDigit rest then .error (wrongDigit (rest.headD '0')) else endNumber kind rest
    | [] => .error ("invalid " ++ kind ++ " literal")

def skipZeros : Nat → List Char → Except String (List Char)
  | 0, rest => .ok rest
  | fuel + 1, text =>
    match text with
    | '_' :: rest =>
      if leadingDigit rest then skipZeros fuel rest else .error "invalid decimal literal"
    | '0' :: rest => skipZeros fuel rest
    | rest => .ok rest

def leadingZeros : String :=
  "leading zeros in decimal integer literals are not permitted; " ++
    "use an 0o prefix for octal integers"

/-- What is left after a number that starts with a zero. -/
def scanZero (rest : List Char) : Except String (List Char) :=
  let fuel := rest.length + 1
  match rest with
  | 'x' :: digits | 'X' :: digits =>
    scanBase "hexadecimal" (fun c => c.isDigit || ('a' ≤ c && c ≤ 'f') || ('A' ≤ c && c ≤ 'F'))
      fuel digits
  | 'o' :: digits | 'O' :: digits => scanBase "octal" (fun c => '0' ≤ c && c ≤ '7') fuel digits
  | 'b' :: digits | 'B' :: digits => scanBase "binary" (fun c => c = '0' || c = '1') fuel digits
  | _ => do
    let rest ← skipZeros fuel rest
    if leadingDigit rest then
      let after ← decimalTail rest.length rest
      match after.head? with
      | some '.' | some 'e' | some 'E' | some 'j' | some 'J' => scanAfterDigits after
      | _ => .error leadingZeros
    else scanAfterDigits rest

/-- What is left after the number that the text starts with. -/
def scanNumber (text : List Char) : Except String (List Char) :=
  match text with
  | '0' :: rest => scanZero rest
  | '.' :: _ => scanAfterDigits text
  | _ => do scanAfterDigits (← decimalTail text.length text)

def stringMarks : List String := ["b", "u", "r", "f", "br", "rb", "fr", "rf"]

/-- How many characters of the text stand before an opening quote, when they may. -/
def stringMark? (text : List Char) : Option Nat :=
  let quoted (n : Nat) : Bool := (text.drop n).head?.any fun c => c = '"' || c = '\''
  let marked (n : Nat) : Bool :=
    stringMarks.contains (String.ofList ((text.take n).map Char.toLower)) && quoted n
  if quoted 0 then some 0 else if marked 1 then some 1 else if marked 2 then some 2 else none

/-- The rest of a string on one line, with the number of characters up to its closing quote. -/
def shortString? (quote : Char) : List Char → Option Nat
  | [] => none
  | '\n' :: _ => none
  | '\\' :: _ :: rest => (shortString? quote rest).map (· + 2)
  | c :: rest => if c = quote then some 1 else (shortString? quote rest).map (· + 1)

/-- The rest of a string up to three quotes in a row. -/
def longString? (quote : Char) : List Char → Option Nat
  | [] => none
  | '\\' :: _ :: rest => (longString? quote rest).map (· + 2)
  | c :: rest =>
    if c = quote && rest.take 2 = [quote, quote] then some 3
    else (longString? quote rest).map (· + 1)

def longOperators : List String := ["**=", "//=", ">>=", "<<=", "..."]

def pairOperators : List String := [
  "!=", "%=", "&=", "**", "*=", "+=", "-=", "->", "//", "/=", ":=", "<<", "<=", "<>", "==", ">=",
  ">>", "@=", "^=", "|="]

def operatorAt (text : List Char) : String :=
  let three := String.ofList (text.take 3)
  let two := String.ofList (text.take 2)
  if longOperators.contains three then three
  else if pairOperators.contains two then two
  else String.ofList (text.take 1)

/-- What is known between two tokens: the current line, the widths of the open blocks, with tabs
to eight and to one, and the open brackets with their lines. -/
structure State where
  line : Nat := 1
  indents : List (Nat × Nat) := []
  opened : List (Char × Nat) := []

/-- The start of a line: the width of its blanks, with tabs to eight and to one, and how many lines it
takes. -/
structure Indentation where
  width : Nat := 0
  narrow : Nat := 0
  lines : Nat := 0

/-- Reads the start of a line. Where a backslash joins it with the next line, the blanks before the
backslash count, if there are any. -/
def Indentation.read (here : Indentation) (joined : Nat) : List Char → Indentation × List Char
  | ' ' :: rest => read { here with width := here.width + 1, narrow := here.narrow + 1 } joined rest
  | '\t' :: rest =>
    read { here with width := (here.width / 8 + 1) * 8, narrow := here.narrow + 1 } joined rest
  | '\x0c' :: rest => read { here with width := 0, narrow := 0 } joined rest
  | '\\' :: '\n' :: c :: rest =>
    read { here with lines := here.lines + 1 } (if joined = 0 then here.width else joined) (c :: rest)
  | rest => (if joined = 0 then here else { here with width := joined, narrow := joined }, rest)

structure Tokens where
  tokens : List Token
  fault : Option TokenFault

def Tokens.stop (state : State) (message : String) (ofCharacters : Bool) (line : Nat) : Tokens :=
  { tokens := [⟨.fault, "", line⟩]
    fault := some ⟨⟨line, message⟩, ofCharacters, state.opened.head?⟩ }

def Tokens.after (first : List Token) (rest : Tokens) : Tokens :=
  { rest with tokens := first ++ rest.tokens }

def mixedTabs : String := "inconsistent use of tabs and spaces in indentation"

/-- The blocks that a line opens or closes by its indentation. -/
def blockTokens (state : State) (width narrow : Nat) :
    Except String (List Token × List (Nat × Nat)) :=
  let current := state.indents.headD (0, 0)
  if width = current.1 then
    if narrow = current.2 then .ok ([], state.indents) else .error mixedTabs
  else if width > current.1 then
    if state.indents.length ≥ 99 then .error "too many levels of indentation"
    else if narrow ≤ current.2 then .error mixedTabs
    else .ok ([⟨.indent, "", state.line⟩], (width, narrow) :: state.indents)
  else
    let kept := state.indents.dropWhile fun block => width < block.1
    let closed := state.indents.length - kept.length
    let outer := kept.headD (0, 0)
    if width ≠ outer.1 then .error "unindent does not match any outer indentation level"
    else if narrow ≠ outer.2 then .error mixedTabs
    else .ok (List.replicate closed ⟨.dedent, "", state.line⟩, kept)

def closerOf : Char → Char
  | '(' => ')'
  | '[' => ']'
  | _ => '\x7d'

def bracketsAfter (state : State) (c : Char) : Except String (List (Char × Nat)) :=
  if c = '(' || c = '[' || c = '\x7b' then
    if state.opened.length ≥ 200 then .error "too many nested parentheses"
    else .ok ((c, state.line) :: state.opened)
  else if c = ')' || c = ']' || c = '\x7d' then
    match state.opened with
    | [] => .error ("unmatched '" ++ String.singleton c ++ "'")
    | (opener, line) :: others =>
      if closerOf opener = c then .ok others
      else .error ("closing parenthesis '" ++ String.singleton c ++
        "' does not match opening parenthesis '" ++ String.singleton opener ++ "'" ++
        if line = state.line then "" else " on line " ++ line.repr)
  else .ok state.opened

/-- How many more lines the text of a short string without an end takes: a line end after a backslash
goes on, unless it is the last. -/
def continuedLines : List Char → Nat
  | '\\' :: '\n' :: rest => if rest.isEmpty then 0 else continuedLines rest + 1
  | '\\' :: _ :: rest => continuedLines rest
  | '\n' :: _ | [] => 0
  | _ :: rest => continuedLines rest

/-- A string token at the start of the text, with what is left; `marks` letters stand before its
opening quote. -/
def scanString (state : State) (marks : Nat) (text : List Char) :
    Except String (Token × Nat × List Char) :=
  let quote := (text.drop marks).headD '"'
  let long := (text.drop marks).take 3 = [quote, quote, quote]
  let opening := marks + if long then 3 else 1
  let body := text.drop opening
  match if long then longString? quote body else shortString? quote body with
  | some length =>
    let whole := text.take (opening + length)
    .ok (⟨.string, String.ofList whole, state.line⟩, whole.count '\n', body.drop length)
  | none =>
    if long then
      let last := state.line + (body.count '\n' - 1)
      .error ("unterminated triple-quoted string literal (detected at line " ++ last.repr ++ ")")
    else
      let last := state.line + continuedLines body
      .error ("unterminated string literal (detected at line " ++ last.repr ++ ")")

mutual

/-- Tokens from the start of a line. What ends with the text stands on its last line. -/
def scanLine : Nat → State → List Char → Tokens
  | 0, state, _ => Tokens.stop state "" false state.line
  | fuel + 1, state, text =>
    let (indentation, rest) := Indentation.read {} 0 text
    let state := { state with line := state.line + indentation.lines }
    match rest with
    | [] =>
      if state.opened.isEmpty then
        { tokens := List.replicate state.indents.length ⟨.dedent, "", state.line - 1⟩ ++
            [⟨.finish, "", state.line - 1⟩]
          fault := none }
      else
        let (bracket, line) := state.opened.headD ('(', 1)
        Tokens.stop state ("'" ++ String.singleton bracket ++ "' was never closed") false line
    | '\n' :: after => scanLine fuel { state with line := state.line + 1 } after
    | '#' :: _ =>
      scanLine fuel { state with line := state.line + 1 } ((rest.dropWhile (· ≠ '\n')).drop 1)
    | _ =>
      if !state.opened.isEmpty then scanTokens fuel state rest
      else match blockTokens state indentation.width indentation.narrow with
        | .error message => Tokens.stop state message false state.line
        | .ok (blocks, indents) =>
          Tokens.after blocks (scanTokens fuel { state with indents } rest)

def scanTokens : Nat → State → List Char → Tokens
  | 0, state, _ => Tokens.stop state "" false state.line
  | fuel + 1, state, text =>
    match text with
    | [] => scanLine fuel state []
    | '\n' :: rest =>
      let next := { state with line := state.line + 1 }
      if state.opened.isEmpty then
        Tokens.after [⟨.newline, "", state.line⟩] (scanLine fuel next rest)
      else scanLine fuel next rest
    | '\\' :: '\n' :: rest =>
      if rest.isEmpty then Tokens.stop state "unexpected EOF while parsing" false state.line
      else scanTokens fuel { state with line := state.line + 1 } rest
    | '\\' :: _ =>
      Tokens.stop state "unexpected character after line continuation character" false state.line
    | c :: rest =>
      if c = ' ' || c = '\t' || c = '\x0c' then scanTokens fuel state rest
      else if c = '#' then scanTokens fuel state (rest.dropWhile (· ≠ '\n'))
      else match stringMark? text with
        | some marks => match scanString state marks text with
          | .error message => Tokens.stop state message true state.line
          | .ok (token, lines, left) =>
            Tokens.after [token] (scanTokens fuel { state with line := state.line + lines } left)
        | none =>
          if startsName c then
            let name := text.takeWhile continuesName
            match nameFault? name with
            | some message => Tokens.stop state message true state.line
            | none => Tokens.after [⟨.name, String.ofList name, state.line⟩]
                (scanTokens fuel state (text.dropWhile continuesName))
          else if c.isDigit || (c = '.' && leadingDigit rest) then
            match scanNumber text with
            | .error message => Tokens.stop state message true state.line
            | .ok left => Tokens.after [⟨.number, "", state.line⟩] (scanTokens fuel state left)
          else
            let operator := operatorAt text
            match bracketsAfter state (operator.toList.headD ' ') with
            | .error message => Tokens.stop state message true state.line
            | .ok opened =>
              if !Text.isPrintable c then
                Tokens.stop state ("invalid non-printable character " ++ codePoint c) true state.line
              else
                Tokens.after [⟨.operator, operator, state.line⟩]
                  (scanTokens fuel { state with opened } (text.drop operator.length))

end

/-- The text with common line ends, the last line ended too. -/
def normalized (text : List Char) : List Char :=
  let plain := Text.plainLineEnds text
  if plain.isEmpty || plain.getLast? = some '\n' then plain else plain ++ ['\n']

def tokenize (text : List Char) : Tokens :=
  let chars := normalized text
  scanLine (2 * chars.length + 2) {} chars

end Prism.Source
