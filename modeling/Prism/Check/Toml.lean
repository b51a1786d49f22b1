import Prism.Json.Reader
import Prism.Text.Literal

namespace Prism.Toml

/-- Why reading stopped, and how many characters were left there. -/
structure Flaw where
  message : String
  left : Nat
  deriving DecidableEq, Repr

abbrev Rest := List Char

def stop {α : Type} (message : String) (rest : Rest) : Except Flaw α := .error ⟨message, rest.length⟩

def isBlank (c : Char) : Bool := c = ' ' || c = '\t'

def isKeyChar (c : Char) : Bool := c.isAlphanum || c = '-' || c = '_'

/-- Control characters other than the tabulator. -/
def isControl (c : Char) : Bool := (c.toNat < 32 && c ≠ '\t') || c.toNat = 127

def skipBlanks (rest : Rest) : Rest := rest.dropWhile isBlank

def drop? (text : String) (rest : Rest) : Option Rest :=
  if text.toList.isPrefixOf rest then some (rest.drop text.length) else none

def starts (text : String) (rest : Rest) : Bool := text.toList.isPrefixOf rest

/-- Stops at the first wrong character of the stretch that ends where `ending` begins. -/
def refuseControls (isWrong : Char → Bool) (ending rest : Rest) : Except Flaw Unit :=
  let stretch := rest.take (rest.length - ending.length)
  match stretch.dropWhile fun c => !isWrong c with
  | [] => .ok ()
  | c :: others =>
    .error ⟨"Found invalid character " ++ Text.quoted (String.singleton c),
      others.length + 1 + ending.length⟩

def skipComment (rest : Rest) : Except Flaw Rest :=
  match rest with
  | '#' :: text => do
    let after := text.dropWhile (· ≠ '\n')
    refuseControls isControl after text
    return after
  | _ => .ok rest

/-- The text from the first occurrence of an ending on. -/
def findEnd? (ending : String) : Rest → Option Rest
  | [] => none
  | c :: rest => if starts ending (c :: rest) then some (c :: rest) else findEnd? ending rest

/-- A text without escapes, after its opening mark. -/
def literalText (ending : String) (isWrong : Char → Bool) (rest : Rest) : Except Flaw Rest :=
  match findEnd? ending rest with
  | none => stop ("Expected " ++ Text.quoted ending) []
  | some after => do
    refuseControls isWrong after rest
    return after.drop ending.length

/-- The character with a number of so many digits. Half of a pair of units is none. -/
def numberedEscape (digits : Nat) (rest : Rest) : Except Flaw (Char × Rest) :=
  let values := (rest.take digits).filterMap Json.hexValue?
  if values.length ≠ digits then stop "Invalid hex value" rest
  else
    let value := values.foldl (fun n d => 16 * n + d) 0
    let after := rest.drop digits
    if value ≤ 0xd7ff || (0xe000 ≤ value && value ≤ 0x10ffff) then .ok (Char.ofNat value, after)
    else stop "Escaped character is not a Unicode scalar value" after

/-- The letters that stand for a character are those of JSON; a slash is none of them. -/
def shortEscape? (c : Char) : Option Char := if c = '/' then none else Json.simpleEscape? c

/-- What stands for an escape, after its backslash. -/
def escape (multiline : Bool) (rest : Rest) : Except Flaw (List Char × Rest) :=
  match rest with
  | [] => stop "Unterminated string" []
  | c :: after =>
    if multiline && (isBlank c || c = '\n') then
      let after := if c = '\n' then rest else skipBlanks after
      match after with
      | [] => .ok ([], [])
      | '\n' :: more => .ok ([], more.dropWhile fun c => isBlank c || c = '\n')
      | _ => stop "Unescaped '\\' in a string" after
    else if c = 'u' then do
      let (escaped, after) ← numberedEscape 4 after
      return ([escaped], after)
    else if c = 'U' then do
      let (escaped, after) ← numberedEscape 8 after
      return ([escaped], after)
    else match shortEscape? c with
      | some escaped => .ok ([escaped], after)
      | none => stop "Unescaped '\\' in a string" after

/-- A text with escapes, after its opening mark. -/
def basicText (multiline : Bool) : Nat → Rest → Except Flaw (List Char × Rest)
  | 0, rest => stop "Unterminated string" rest
  | fuel + 1, rest =>
    let followed (piece : List Char) (rest : Rest) : Except Flaw (List Char × Rest) := do
      let (text, after) ← basicText multiline fuel rest
      return (piece ++ text, after)
    match rest with
    | [] => stop "Unterminated string" []
    | '"' :: after =>
      if !multiline then .ok ([], after)
      else match drop? "\"\"\"" rest with
        | some after => .ok ([], after)
        | none => followed ['"'] after
    | '\\' :: after => do
      let (escaped, after) ← escape multiline after
      followed escaped after
    | c :: after =>
      if isControl c && !(multiline && c = '\n') then
        stop ("Illegal character " ++ Text.quoted (String.singleton c)) rest
      else followed [c] after

def oneLineText (rest : Rest) : Except Flaw (List Char × Rest) := basicText false (rest.length + 1) (rest.drop 1)

/-- Up to two more marks belong to a text of several lines. -/
def closingMarks (mark : Char) (rest : Rest) : Rest :=
  match rest with
  | a :: b :: after => if a = mark then (if b = mark then after else b :: after) else rest
  | [a] => if a = mark then [] else rest
  | [] => []

def multilineText (mark : Char) (rest : Rest) : Except Flaw Rest := do
  let body := rest.drop 3
  let body := if body.head? = some '\n' then body.drop 1 else body
  let after ← if mark = '"' then do return (← basicText true (body.length + 1) body).2
    else literalText "'''" (fun c => isControl c && c ≠ '\n') body
  return closingMarks mark after

/-- The parts of a name that leads through tables. -/
abbrev Key := List String

def keyPart (rest : Rest) : Except Flaw (String × Rest) :=
  match rest with
  | c :: after =>
    if isKeyChar c then .ok (String.ofList (rest.takeWhile isKeyChar), rest.dropWhile isKeyChar)
    else if c = '\'' then do
      let left ← literalText "'" isControl after
      return (String.ofList (after.take (after.length - left.length - 1)), left)
    else if c = '"' then do
      let (text, left) ← oneLineText rest
      return (String.ofList text, left)
    else stop "Invalid initial character for a key part" rest
  | [] => stop "Invalid initial character for a key part" []

def key : Nat → Rest → Except Flaw (Key × Rest)
  | 0, rest => stop "Invalid initial character for a key part" rest
  | fuel + 1, rest => do
    let (part, after) ← keyPart rest
    match skipBlanks after with
    | '.' :: more =>
      let (parts, after) ← key fuel (skipBlanks more)
      return (part :: parts, after)
    | after => return ([part], after)

/-- Digits with single underscores between them, at least one. -/
def digits? (isDigit : Char → Bool) : Rest → Option Rest
  | [] => none
  | c :: '_' :: rest => if isDigit c then some ((digits? isDigit rest).getD ('_' :: rest)) else none
  | c :: rest => if isDigit c then some ((digits? isDigit rest).getD rest) else none

/-- Exactly so many digits, with their value. -/
def fixedDigits? (n : Nat) (rest : Rest) : Option (Nat × Rest) :=
  let digits := rest.take n
  if digits.length = n && digits.all Char.isDigit then
    some (digits.foldl (fun value c => 10 * value + (c.toNat - 48)) 0, rest.drop n)
  else none

def ranged? (n least most : Nat) (rest : Rest) : Option Rest :=
  match fixedDigits? n rest with
  | some (value, after) => if least ≤ value && value ≤ most then some after else none
  | none => none

def dropChar? (c : Char) (rest : Rest) : Option Rest :=
  if rest.head? = some c then some (rest.drop 1) else none

def time? (rest : Rest) : Option Rest := do
  let rest ← ranged? 2 0 23 rest
  let rest ← dropChar? ':' rest
  let rest ← ranged? 2 0 59 rest
  let rest ← dropChar? ':' rest
  let rest ← ranged? 2 0 59 rest
  match rest with
  | '.' :: fraction =>
    if fraction.head?.any Char.isDigit then return fraction.dropWhile Char.isDigit else return rest
  | _ => return rest

/-- The distance from the common time, if one is given. -/
def zone (rest : Rest) : Rest :=
  match rest with
  | 'Z' :: after | 'z' :: after => after
  | c :: after =>
    if c = '+' || c = '-' then
      let distance? : Option Rest := do
        let rest ← ranged? 2 0 23 after
        let rest ← dropChar? ':' rest
        ranged? 2 0 59 rest
      distance?.getD rest
    else rest
  | [] => []

def daysIn (year month : Nat) : Nat :=
  if month = 2 then (if year % 4 = 0 && (year % 100 ≠ 0 || year % 400 = 0) then 29 else 28)
  else if [4, 6, 9, 11].contains month then 30 else 31

/-- A date, with or without a time: whether it exists, and what follows. -/
def date? (rest : Rest) : Option (Bool × Rest) := do
  let (year, rest) ← fixedDigits? 4 rest
  let rest ← dropChar? '-' rest
  let (month, rest) ← fixedDigits? 2 rest
  let rest ← dropChar? '-' rest
  let (day, rest) ← fixedDigits? 2 rest
  if month = 0 || 12 < month || day = 0 || 31 < day then none
  else
    let exists_ := 0 < year && day ≤ daysIn year month
    match rest with
    | c :: after =>
      if c = 'T' || c = 't' || c = ' ' then
        match time? after with
        | some after => return (exists_, zone after)
        | none => return (exists_, rest)
      else return (exists_, rest)
    | [] => return (exists_, [])

def basedNumber? (rest : Rest) : Option Rest :=
  match rest with
  | '0' :: 'x' :: digits => digits? (fun c => (Json.hexValue? c).isSome) digits
  | '0' :: 'b' :: digits => digits? (fun c => c = '0' || c = '1') digits
  | '0' :: 'o' :: digits => digits? (fun c => '0' ≤ c && c ≤ '7') digits
  | _ => none

def unsigned (rest : Rest) : Rest :=
  if rest.head? = some '+' || rest.head? = some '-' then rest.drop 1 else rest

/-- A decimal number: how many digits it has when it is whole, and what follows. -/
def decimalNumber? (rest : Rest) : Option (Option Nat × Rest) := do
  let digits := unsigned rest
  let whole ← if digits.head? = some '0' then some (digits.drop 1) else digits? Char.isDigit digits
  let rest := match whole with
    | '.' :: fraction => (digits? Char.isDigit fraction).getD whole
    | _ => whole
  let rest := match rest with
    | c :: power => if c = 'e' || c = 'E' then (digits? Char.isDigit (unsigned power)).getD rest else rest
    | [] => []
  let count := ((digits.take (digits.length - whole.length)).filter Char.isDigit).length
  return (if rest.length = whole.length then some count else none, rest)

/-- Why a text is not read: a flaw in it, or a limit. -/
inductive Stop where
  | flaw (flaw : Flaw)
  | limit (met : Limit)

instance : MonadLift (Except Flaw) (Except Stop) := ⟨fun part => part.mapError .flaw⟩

def refuse {α : Type} (message : String) (rest : Rest) : Except Stop α := .error (.flaw ⟨message, rest.length⟩)

/-- A value that is neither text nor collection. -/
def plainValue (room : Room) (rest : Rest) : Except Stop Rest :=
  match date? rest with
  | some (true, after) => .ok after
  | some (false, _) => refuse "Invalid date or datetime" rest
  | none => match (time? rest).orElse fun _ => basedNumber? rest, decimalNumber? rest with
    | some after, _ => .ok after
    | none, some (count, after) => match count.filter (!room.admits ·) with
      | some count => .error (.limit (room.tooLong count))
      | none => .ok after
    | none, none =>
      let word := unsigned rest
      if starts "inf" word || starts "nan" word then .ok (word.drop 3)
      else refuse "Invalid value" rest

/-- Blanks, line ends and comments between the elements of an array. -/
def skipBetween : Nat → Rest → Except Flaw Rest
  | 0, rest => .ok rest
  | fuel + 1, rest => do
    let after := rest.dropWhile fun c => isBlank c || c = '\n'
    let after ← skipComment after
    if after.length = rest.length then return after else skipBetween fuel after

/-- What stands under a name: a value, a table, or tables of which the last one is open. -/
inductive Item where
  | value
  | table (items : List (String × Item))
  | tables (last : List (String × Item))

abbrev Table := List (String × Item)

def Table.set (name : String) (item : Item) : Table → Table
  | [] => [(name, item)]
  | (other, old) :: items =>
    if other = name then (other, item) :: items else (other, old) :: Table.set name item items

/-- Changes the table that a name leads to, which is made if it is not there. A value on the way is in the way. -/
def Table.change (last : Table → Option Table) : Key → Table → Option Table
  | [], table => last table
  | name :: names, table => match table.lookup name with
    | none => (Table.change last names []).map fun inner => table.set name (.table inner)
    | some (.table inner) => (Table.change last names inner).map fun inner => table.set name (.table inner)
    | some (.tables inner) => (Table.change last names inner).map fun inner => table.set name (.tables inner)
    | some .value => none

/-- Puts a value under a name that is free. -/
def Table.add (name : String) (table : Table) : Option Table :=
  if (table.lookup name).isSome then none else some (table.set name .value)

/-- Opens one more of the tables of a name. -/
def Table.append (name : String) (table : Table) : Option Table :=
  match table.lookup name with
  | none | some (.tables _) => some (table.set name (.tables []))
  | some _ => none

def keyText (key : Key) : String :=
  "(" ++ String.intercalate ", " (key.map Text.quoted) ++ (if key.length = 1 then ",)" else ")")

/-- Whether a name leads into one of these. -/
def leadsInto (frozen : List Key) (key : Key) : Bool := frozen.any (·.isPrefixOf key)

mutual

/-- A value, for which so many calls are left: whether it is a collection, and what follows. An array takes two
calls and a table three. -/
def value (room : Room) : Nat → Nat → Rest → Except Stop (Bool × Rest)
  | _, 0, rest => refuse "Invalid value" rest
  | left, fuel + 1, rest =>
    if left = 0 then .error (.limit .calls)
    else match rest with
    | '"' :: _ => do
      if starts "\"\"\"" rest then return (false, ← multilineText '"' rest)
      return (false, (← oneLineText rest).2)
    | '\'' :: after => do
      if starts "'''" rest then return (false, ← multilineText '\'' rest)
      return (false, ← literalText "'" isControl after)
    | '[' :: after => do
      if left = 1 then throw (.limit .calls)
      let after ← skipBetween after.length after
      if after.head? = some ']' then return (true, after.drop 1)
      return (true, ← array room (left - 2) fuel after)
    | '\x7b' :: after => do
      if left = 1 then throw (.limit .calls)
      let after := skipBlanks after
      if after.head? = some '\x7d' then return (true, after.drop 1)
      return (true, ← inlineTable room (left - 2) fuel [] [] after)
    | _ =>
      if starts "true" rest then .ok (false, rest.drop 4)
      else if starts "false" rest then .ok (false, rest.drop 5)
      else (plainValue room rest).map fun after => (false, after)
termination_by structural _ fuel => fuel

def array (room : Room) : Nat → Nat → Rest → Except Stop Rest
  | _, 0, rest => refuse "Unclosed array" rest
  | left, fuel + 1, rest => do
    let (_, after) ← value room left fuel rest
    let after ← skipBetween after.length after
    match after with
    | ']' :: more => return more
    | ',' :: more =>
      let more ← skipBetween more.length more
      if more.head? = some ']' then return more.drop 1
      array room left fuel more
    | _ => refuse "Unclosed array" after
termination_by structural _ fuel => fuel

/-- The members of a table in braces, after those that are there. Nothing is added to a collection. -/
def inlineTable (room : Room) : Nat → Nat → Table → List Key → Rest → Except Stop Rest
  | _, 0, _, _, rest => refuse "Unclosed inline table" rest
  | left, fuel + 1, table, frozen, rest => do
    let (key, collection, after) ← member room left fuel rest
    if leadsInto frozen key then refuse ("Cannot mutate immutable namespace " ++ keyText key) after
    let name := key.getLast?.getD ""
    match Table.change some key.dropLast table, Table.change (Table.add name) key.dropLast table with
    | none, _ => refuse "Cannot overwrite a value" after
    | some _, none => refuse ("Duplicate inline table key " ++ Text.quoted name) after
    | some _, some table => match skipBlanks after with
      | '\x7d' :: more => return more
      | ',' :: more =>
        inlineTable room left fuel table (if collection then key :: frozen else frozen) (skipBlanks more)
      | after => refuse "Unclosed inline table" after
termination_by structural _ fuel => fuel

/-- A name with its value, which takes one more call. -/
def member (room : Room) : Nat → Nat → Rest → Except Stop (Key × Bool × Rest)
  | _, 0, rest => refuse "Invalid value" rest
  | left, fuel + 1, rest => do
    let (key, after) ← key (rest.length + 1) rest
    match after with
    | '=' :: more =>
      let (collection, after) ← value room (left - 1) fuel (skipBlanks more)
      return (key, collection, after)
    | _ => refuse "Expected '=' after a key in a key/value pair" after
termination_by structural _ fuel => fuel

end

/-- What is known between two statements: the tables so far, the names of those that are not opened again, of those
that will not be from the next header on, and of the collections that nothing is added to, and the header. -/
structure Layout where
  tables : Table := []
  closed : List Key := []
  closing : List Key := []
  frozen : List Key := []
  header : Key := []

namespace Layout

def settled (layout : Layout) : Layout :=
  { layout with closed := layout.closing ++ layout.closed, closing := [] }

/-- Ends a header, with what it makes of the tables. -/
def headed (layout : Layout) (key : Key) (tables : Option Table) (closing problem : String) (after : Rest) :
    Except Stop (Layout × Rest) :=
  match tables, drop? closing after with
  | none, _ => refuse "Cannot overwrite a value" after
  | some _, none => refuse problem after
  | some tables, some more => .ok ({ layout with tables, closed := key :: layout.closed, header := key }, more)

def openTable (layout : Layout) (rest : Rest) : Except Stop (Layout × Rest) := do
  let layout := layout.settled
  let inner := skipBlanks (rest.drop 1)
  let (key, after) ← key (inner.length + 1) inner
  if layout.closed.contains key || leadsInto layout.frozen key then
    refuse ("Cannot declare " ++ keyText key ++ " twice") after
  layout.headed key (Table.change some key layout.tables) "]" "Expected ']' at the end of a table declaration" after

/-- Opens one more table of a name. All that was said of names below it is said no more. -/
def openListed (layout : Layout) (rest : Rest) : Except Stop (Layout × Rest) := do
  let layout := layout.settled
  let inner := skipBlanks (rest.drop 2)
  let (key, after) ← key (inner.length + 1) inner
  if leadsInto layout.frozen key then refuse ("Cannot mutate immutable namespace " ++ keyText key) after
  let below (keys : List Key) : List Key := keys.filter fun other => !key.isPrefixOf other
  let layout := { layout with closed := below layout.closed, frozen := below layout.frozen }
  layout.headed key (Table.change (Table.append (key.getLast?.getD "")) key.dropLast layout.tables) "]]"
    "Expected ']]' at the end of an array declaration" after

def addMember (room : Room) (layout : Layout) (rest : Rest) : Except Stop (Layout × Rest) := do
  let (key, collection, after) ← member room room.nesting (3 * rest.length + 3) rest
  let ways := (List.range (key.length - 1)).map fun count => layout.header ++ key.take (count + 1)
  if let some way := ways.find? layout.closed.contains then
    refuse ("Cannot redefine namespace " ++ keyText way) after
  let parent := layout.header ++ key.dropLast
  if leadsInto layout.frozen parent then refuse ("Cannot mutate immutable namespace " ++ keyText parent) after
  match Table.change (Table.add (key.getLast?.getD "")) parent layout.tables with
  | none => refuse "Cannot overwrite a value" after
  | some tables => return ({ layout with
      tables
      closing := ways ++ layout.closing
      frozen := if collection then (layout.header ++ key) :: layout.frozen else layout.frozen }, after)

def statement (room : Room) (layout : Layout) (rest : Rest) : Except Stop (Layout × Rest) :=
  match rest with
  | '[' :: '[' :: _ => layout.openListed rest
  | '[' :: _ => layout.openTable rest
  | c :: _ =>
    if isKeyChar c || c = '"' || c = '\'' then layout.addMember room rest
    else if c = '#' then .ok (layout, rest)
    else refuse "Invalid statement" rest
  | [] => .ok (layout, [])

end Layout

def document (room : Room) : Nat → Layout → Rest → Except Stop Unit
  | 0, _, _ => .ok ()
  | fuel + 1, layout, text =>
    match skipBlanks text with
    | [] => .ok ()
    | '\n' :: rest => document room fuel layout rest
    | rest => do
      let (layout, after) ← layout.statement room rest
      let after ← skipComment (skipBlanks after)
      match after with
      | [] => return ()
      | '\n' :: more => document room fuel layout more
      | _ => refuse "Expected newline or end of document after a statement" after

/-- The place in a text where so many characters are left. -/
def place (text : List Char) (left : Nat) : String :=
  if left = 0 then "end of document"
  else
    let before := text.take (text.length - left)
    let column := (before.reverse.takeWhile (· ≠ '\n')).length + 1
    "line " ++ (before.count '\n' + 1).repr ++ ", column " ++ column.repr

/-- The flaw of a text, if it has one, or the limit at which reading ends. -/
def problem? (room : Room) (text : String) : Except Limit (Option String) :=
  let chars := (Text.replaceAll "\r\n" "\n" text).toList
  match document room (chars.length + 1) {} chars with
  | .ok _ => .ok none
  | .error (.flaw flaw) => .ok (some (flaw.message ++ " (at " ++ place chars flaw.left ++ ")"))
  | .error (.limit met) => .error met

end Prism.Toml
