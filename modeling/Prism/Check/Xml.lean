import Prism.Check.XmlName

namespace Prism.Xml

/-- A place in a text: what is left, with the line and the column counted from zero. -/
structure Cursor where
  rest : List Char
  line : Nat := 1
  column : Nat := 0

structure Flaw where
  message : String
  line : Nat
  column : Nat
  deriving DecidableEq, Repr

def Flaw.text (flaw : Flaw) : String :=
  flaw.message ++ ": line " ++ flaw.line.repr ++ ", column " ++ flaw.column.repr

def Cursor.next (place : Cursor) : Cursor :=
  match place.rest with
  | [] => place
  | '\n' :: rest => ⟨rest, place.line + 1, 0⟩
  | '\r' :: '\n' :: rest => ⟨'\n' :: rest, place.line, place.column⟩
  | '\r' :: rest => ⟨rest, place.line + 1, 0⟩
  | _ :: rest => ⟨rest, place.line, place.column + 1⟩

def Cursor.skip : Nat → Cursor → Cursor
  | 0, place => place
  | n + 1, place => Cursor.skip n place.next

def Cursor.startsWith (place : Cursor) (text : String) : Bool := text.toList.isPrefixOf place.rest

def Cursor.fail {α : Type} (place : Cursor) (message : String) : Except Flaw α :=
  .error ⟨message, place.line, place.column⟩

/-- Stops at a character that cannot stand here, or at the start of what the end of the text cuts
off. -/
def Cursor.refuse {α : Type} (place start : Cursor) : Except Flaw α :=
  if place.rest.isEmpty then start.fail "unclosed token"
  else place.fail "not well-formed (invalid token)"

def isCharacter (c : Char) : Bool :=
  c = '\t' || c = '\n' || c = '\r' || (32 ≤ c.toNat && c.toNat ≠ 0xfffe && c.toNat ≠ 0xffff)

def isSpace (c : Char) : Bool := c = ' ' || c = '\t' || c = '\n' || c = '\r'

def Cursor.skipWhile (p : Char → Bool) (place : Cursor) : Cursor :=
  place.skip (place.rest.takeWhile p).length

def Cursor.skipSpace (place : Cursor) : Cursor := place.skipWhile isSpace

/-- A name; `start` is where the mark with the name begins. -/
def readName (start place : Cursor) : Except Flaw (List Char × Cursor) :=
  if place.rest.head?.any startsName then
    .ok (place.rest.takeWhile continuesName, place.skipWhile continuesName)
  else place.refuse start

/-- Passes over text up to and with an ending; every character has to be one of a document. -/
def skipPast (ending : String) (start : Cursor) : Nat → Cursor → Except Flaw Cursor
  | 0, place => place.refuse start
  | fuel + 1, place =>
    if place.startsWith ending then .ok (place.skip ending.length)
    else match place.rest with
      | c :: _ => if isCharacter c then skipPast ending start fuel place.next else place.refuse start
      | [] => place.refuse start

def fuelOf (place : Cursor) : Nat := place.rest.length + 1

/-- A comment after its opening. Two hyphens only stand at its end. -/
def skipComment (start place : Cursor) : Except Flaw Cursor := do
  let after ← skipPast "--" start (fuelOf place) place
  if after.rest.head? = some '>' then return after.next else after.refuse start

/-- An instruction after its opening. Only the start of a document declares its version. -/
def skipInstruction (start place : Cursor) : Except Flaw Cursor := do
  let (name, after) ← readName start place
  if (String.ofList (name.map Char.toLower)) = "xml" then
    start.fail "XML or text declaration not at start of entity"
  else if after.startsWith "?>" then return after.skip 2
  else if after.rest.head?.any isSpace then skipPast "?>" start (fuelOf after) after
  else after.refuse start

def namesCharacter (n : Nat) : Bool :=
  (n = 9 || n = 10 || n = 13 || 32 ≤ n) && n ≤ 0x10ffff && n ≠ 0xfffe && n ≠ 0xffff &&
    !(0xd800 ≤ n && n ≤ 0xdfff)

def digitOf (c : Char) : Nat :=
  if c.isDigit then c.toNat - 48 else if c.isUpper then c.toNat - 55 else c.toNat - 87

def isHex (c : Char) : Bool :=
  c.isDigit || ('a' ≤ c && c ≤ 'f') || ('A' ≤ c && c ≤ 'F')

/-- A reference to a character by its number, to some base, after its marks. -/
def readCharacterNumber (base : Nat) (isDigit : Char → Bool) (start place : Cursor) :
    Except Flaw Cursor :=
  let digits := place.rest.takeWhile isDigit
  let after := place.skipWhile isDigit
  if digits.isEmpty || after.rest.head? ≠ some ';' then after.refuse start
  else if namesCharacter (digits.foldl (fun n c => base * n + digitOf c) 0) then .ok after.next
  else start.fail "reference to invalid character number"

/-- The names of texts that a document may refer to, and whether there are no others, declared at
a place that is not read. -/
structure Names where
  declared : List (List Char)
  complete : Bool

def Names.common : Names := ⟨["lt", "gt", "amp", "quot", "apos"].map String.toList, true⟩

/-- A reference at an ampersand, to a character or to one of the names. A value may refer to a name
that is declared elsewhere. -/
def skipReference (names : Names) (inValue : Bool) (start : Cursor) : Except Flaw Cursor :=
  let place := start.next
  if place.startsWith "#x" then readCharacterNumber 16 isHex start (place.skip 2)
  else if place.startsWith "#" then readCharacterNumber 10 Char.isDigit start place.next
  else do
    let (name, after) ← readName start place
    if after.rest.head? ≠ some ';' then after.refuse start
    else if names.declared.contains name then return after.next
    else if names.complete then start.fail "undefined entity"
    else if inValue then return after.next
    else start.fail ("undefined entity &" ++ String.ofList name ++ ";")

/-- The value of an attribute after its opening quote. -/
def skipValue (names : Names) (quote : Char) (start : Cursor) :
    Nat → Cursor → Except Flaw Cursor
  | 0, place => place.refuse start
  | fuel + 1, place =>
    match place.rest with
    | [] => place.refuse start
    | c :: _ =>
      if c = quote then .ok place.next
      else if c = '&' then do
        let after ← skipReference names true place
        skipValue names quote start fuel after
      else if c = '<' || !isCharacter c then place.refuse start
      else skipValue names quote start fuel place.next

/-- The attributes of a tag up to its end, and whether the element is empty. -/
def readAttributes (names : Names) (start : Cursor) :
    Nat → List (List Char) → Cursor → Except Flaw (Bool × Cursor)
  | 0, _, place => place.refuse start
  | fuel + 1, known, place =>
    let after := place.skipSpace
    match after.rest with
    | '>' :: _ => .ok (false, after.next)
    | '/' :: '>' :: _ => .ok (true, after.skip 2)
    | '/' :: _ => after.next.refuse start
    | _ =>
      if after.rest.length = place.rest.length then after.refuse start
      else do
        let (name, value) ← readName start after
        let value := value.skipSpace
        if value.rest.head? ≠ some '=' then value.refuse start
        else
          let value := value.next.skipSpace
          match value.rest with
          | '"' :: _ | '\'' :: _ =>
            let rest ← skipValue names (value.rest.headD '"') start (fuelOf value) value.next
            if known.contains name then after.fail "duplicate attribute"
            else readAttributes names start fuel (name :: known) rest
          | _ => value.refuse start

/-- The text up to the end of a section that is taken as it stands. -/
def skipSection : Nat → Cursor → Except Flaw Cursor
  | 0, place => place.fail "unclosed CDATA section"
  | fuel + 1, place =>
    if place.startsWith "]]>" then .ok (place.skip 3)
    else match place.rest with
      | [] => place.fail "unclosed CDATA section"
      | c :: _ =>
        if isCharacter c then skipSection fuel place.next
        else place.fail "not well-formed (invalid token)"

/-- What stands inside the open elements, the innermost first, up to the end of the outermost. -/
def readContent (names : Names) : Nat → List (List Char) → Cursor → Except Flaw Cursor
  | _, [], place => .ok place
  | 0, _, place => place.fail "no element found"
  | fuel + 1, name :: outer, place =>
    let opened := name :: outer
    match place.rest with
    | [] => place.fail "no element found"
    | '<' :: rest => match rest with
      | '/' :: _ => do
        let inner := place.skip 2
        let (closed, after) ← readName place inner
        let after := after.skipSpace
        if after.rest.head? ≠ some '>' then after.refuse place
        else if closed ≠ name then inner.fail "mismatched tag"
        else readContent names fuel outer after.next
      | '?' :: _ => do readContent names fuel opened (← skipInstruction place (place.skip 2))
      | '!' :: _ =>
        if place.startsWith "<!--" then do
          readContent names fuel opened (← skipComment place (place.skip 4))
        else if place.startsWith "<![CDATA[" then do
          readContent names fuel opened (← skipSection (fuelOf place) (place.skip 9))
        else (place.skip 2).refuse place
      | _ => do
        let (inner, after) ← readName place place.next
        let (empty, after) ← readAttributes names place (fuelOf after) [] after
        readContent names fuel (if empty then opened else inner :: opened) after
    | '&' :: _ => do readContent names fuel opened (← skipReference names false place)
    | c :: _ =>
      if place.startsWith "]]>" then (place.skip 2).refuse place
      else if isCharacter c then readContent names fuel opened place.next
      else place.refuse place

def skipQuoted (place : Cursor) : Except Flaw Cursor :=
  skipPast (String.singleton (place.rest.headD '"')) place (fuelOf place) place.next

/-- The rest of a declaration up to its end or to an opening bracket, with quoted parts. -/
def skipDeclared (start : Cursor) : Nat → Cursor → Except Flaw Cursor
  | 0, place => place.refuse start
  | fuel + 1, place =>
    match place.rest with
    | [] => place.fail "no element found"
    | '>' :: _ | '[' :: _ => .ok place
    | '"' :: _ | '\'' :: _ => do skipDeclared start fuel (← skipQuoted place)
    | c :: _ => if isCharacter c then skipDeclared start fuel place.next else place.refuse start

def declaredName? (place : Cursor) : Option (List Char) :=
  let named := (place.skip 8).skipSpace
  let value := (named.skipWhile continuesName).skipSpace
  if place.startsWith "<!ENTITY" && value.rest.head?.any (fun c => c = '"' || c = '\'') then
    some (named.rest.takeWhile continuesName)
  else none

/-- The declarations between brackets, with the names they add. Unless the document stands alone,
no name is added after a reference to declarations that are not read. -/
def readDeclarations (alone : Bool) : Nat → Bool → Names → Cursor → Except Flaw (Names × Cursor)
  | 0, _, _, place => place.fail "no element found"
  | fuel + 1, adds, names, start =>
    let place := start.skipSpace
    match place.rest with
    | ']' :: _ => .ok (names, place.next)
    | '%' :: _ => do
      let (_, after) ← readName place place.next
      if after.rest.head? = some ';' then
        readDeclarations alone fuel alone { names with complete := alone } after.next
      else after.refuse place
    | '<' :: _ =>
      if place.startsWith "<!--" then do
        readDeclarations alone fuel adds names (← skipComment place (place.skip 4))
      else if place.startsWith "<?" then do
        readDeclarations alone fuel adds names (← skipInstruction place (place.skip 2))
      else do
        let after ← skipDeclared place (fuelOf place) (place.skip 2)
        let added := if adds then (declaredName? place).toList else []
        if after.rest.head? = some '>' then
          readDeclarations alone fuel adds { names with declared := added ++ names.declared }
            after.next
        else after.refuse place
    | [] => place.fail "no element found"
    | _ => place.refuse place

/-- The declaration of a document's type after its opening: the names that the document may refer
to. More may be declared where it points to, unless the document stands alone. -/
def readDoctype (alone : Bool) (start place : Cursor) : Except Flaw (Names × Cursor) := do
  let (_, named) ← readName start place.skipSpace
  let after ← skipDeclared start (fuelOf place) place
  let pointsElsewhere := named.skipSpace.rest.length ≠ after.rest.length
  let names : Names := { Names.common with complete := alone || !pointsElsewhere }
  let (names, after) ←
    if after.rest.head? = some '[' then
      readDeclarations alone (fuelOf after) true names after.next
    else pure (names, after)
  let after := after.skipSpace
  if after.rest.head? = some '>' then return (names, after.next) else after.refuse start

def refuseOutside {α : Type} (reason : String) (place : Cursor) : Except Flaw α :=
  let separates (c : Char) : Bool := isSpace c || ">),|[%+*?".toList.contains c
  match place.rest with
  | [] => place.fail "no element found"
  | c :: _ =>
    if continuesName c then
      let after := place.skipWhile continuesName
      if after.rest.isEmpty || after.rest.head?.any separates then place.fail reason
      else after.refuse place
    else if c = '"' || c = '\'' then
      match skipPast (String.singleton c) place (fuelOf place) place.next with
      | .ok _ => place.fail reason
      | .error flaw => .error flaw
    else if "[](),>|%#".toList.contains c then place.fail reason
    else place.refuse place

def readEpilog : Nat → Cursor → Except Flaw Unit
  | 0, place => place.fail "junk after document element"
  | fuel + 1, start =>
    let place := start.skipSpace
    if place.rest.isEmpty then .ok ()
    else if place.startsWith "<!--" then do
      readEpilog fuel (← skipComment place (place.skip 4))
    else if place.startsWith "<?" then do
      readEpilog fuel (← skipInstruction place (place.skip 2))
    else if place.rest.head? = some '<' then
      if (place.rest.drop 1).head?.any startsName then place.fail "junk after document element"
      else place.next.refuse place
    else refuseOutside "junk after document element" place

def readProlog (alone : Bool) : Nat → Names → Cursor → Except Flaw Unit
  | 0, _, place => place.fail "no element found"
  | fuel + 1, names, start =>
    let place := start.skipSpace
    if place.startsWith "<!--" then do
      readProlog alone fuel names (← skipComment place (place.skip 4))
    else if place.startsWith "<?" then do
      readProlog alone fuel names (← skipInstruction place (place.skip 2))
    else if place.startsWith "<!DOCTYPE" then do
      let (names, after) ← readDoctype alone place (place.skip 9)
      readProlog alone fuel names after
    else if place.rest.head? = some '<' then do
      let (name, after) ← readName place place.next
      let (empty, after) ← readAttributes names place (fuelOf after) [] after
      let after ← if empty then pure after else readContent names (fuelOf after) [name] after
      readEpilog (fuelOf after) after
    else refuseOutside "syntax error" place

/-- The declaration of the version at the very start, if there is one, and whether it says that the
document stands alone. -/
def readDeclaration (place : Cursor) : Except Flaw (Bool × Cursor) :=
  let after := place.skip 5
  if place.startsWith "<?xml" && after.rest.head?.any isSpace then do
    let ended ← skipPast "?>" place (fuelOf after) after
    let said := (after.rest.take (after.rest.length - ended.rest.length)).filter (!isSpace ·)
    let alone := ["standalone=\"yes\"", "standalone='yes'"].any
      fun part => Text.occursIn part.toList said
    return (alone, ended)
  else .ok (false, place)

/-- The first fault of a document. A mark of the order of octets may stand in front. -/
def flaw? (text : String) : Option Flaw :=
  let start : Cursor := { rest := text.toList }
  let start := if start.rest.head? = some '\ufeff' then start.next else start
  let read : Except Flaw Unit := do
    let (alone, after) ← readDeclaration start
    readProlog alone (fuelOf after) .common after
  match read with
  | .ok _ => none
  | .error flaw => some flaw

end Prism.Xml
