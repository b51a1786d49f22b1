import Prism.Json.Reader
import Prism.Text.Utf8
import Prism.Yaml.Fault

namespace Prism.Yaml

/-- A token. The last one tells whether the text ended or could not be read any further. -/
inductive Token where
  | version (major : Nat)
  | handle (name beginning : String)
  | directive
  | documentStart
  | documentEnd
  | blockSequence
  | blockMapping
  | blockEnd
  | flowSequence
  | flowSequenceEnd
  | flowMapping
  | flowMappingEnd
  | blockEntry
  | flowEntry
  | key
  | value
  | alias (name : String)
  | anchor (name : String)
  | tag (handle : Option String) (suffix : String)
  | scalar (text : String) (plain : Bool)
  | streamEnd
  | broken
  deriving DecidableEq, Repr

/-- A place in a text: what is left and how much that is, how much is behind, and the line and column
from zero. -/
structure Place where
  rest : List Char
  left : Nat
  index : Nat := 0
  line : Nat := 0
  column : Nat := 0

/-- The character that stands for the end of the text. -/
def endMark : Char := '\x00'

def isBreak (c : Char) : Bool :=
  c = '\n' || c = '\r' || c = '\x85' || c = '\u2028' || c = '\u2029'

def isBreakOrEnd (c : Char) : Bool := c = endMark || isBreak c

/-- A blank, a line end or the end. -/
def isGap (c : Char) : Bool := c = ' ' || c = '\t' || isBreakOrEnd c

/-- The characters that a document may hold. -/
def isPrintable (c : Char) : Bool :=
  let n := c.toNat
  n = 9 || n = 10 || n = 13 || (0x20 ≤ n && n ≤ 0x7e) || n = 0x85 || (0xa0 ≤ n && n ≤ 0xfffd) ||
    0x10000 ≤ n

namespace Place

def peek (place : Place) (n : Nat) : Char := (place.rest[n]?).getD endMark

def next (place : Place) : Place :=
  match place.rest with
  | [] => place
  | c :: rest =>
    let ends := (c ≠ '\r' && isBreak c) || (c = '\r' && rest.head? ≠ some '\n')
    { rest
      left := place.left - 1
      index := place.index + 1
      line := if ends then place.line + 1 else place.line
      column := if ends then 0 else if c = '\ufeff' then place.column else place.column + 1 }

def forward : Nat → Place → Place
  | 0, place => place
  | n + 1, place => forward n place.next

def run (p : Char → Bool) (place : Place) : Nat := (place.rest.takeWhile p).length

def take (n : Nat) (place : Place) : List Char × Place := (place.rest.take n, place.forward n)

def skipWhile (p : Char → Bool) (place : Place) : Place := place.forward (place.run p)

/-- A line end, if one comes next; the usual ones are all read as a line feed. -/
def lineBreak (place : Place) : List Char × Place :=
  match place.rest with
  | '\r' :: '\n' :: _ => (['\n'], place.forward 2)
  | c :: _ =>
    if c = '\u2028' || c = '\u2029' then ([c], place.next)
    else if isBreak c then (['\n'], place.next)
    else ([], place)
  | [] => ([], place)

def ofText (text : List Char) : Place := { rest := text, left := text.length }

/-- More than there is left. -/
def fuel (place : Place) : Nat := place.left + 1

/-- Three marks that start or end a document, with a gap after them. -/
def atSeparator (place : Place) : Bool :=
  (place.rest.take 3 = ['-', '-', '-'] || place.rest.take 3 = ['.', '.', '.']) &&
    isGap (place.peek 3)

end Place

def escapedChar? : Char → Option Char
  | '0' => some '\x00'
  | 'a' => some '\x07'
  | 'b' => some '\x08'
  | 't' | '\t' => some '\t'
  | 'n' => some '\n'
  | 'v' => some '\x0b'
  | 'f' => some '\x0c'
  | 'r' => some '\r'
  | 'e' => some '\x1b'
  | ' ' => some ' '
  | '"' => some '"'
  | '\\' => some '\\'
  | '/' => some '/'
  | 'N' => some '\x85'
  | '_' => some '\xa0'
  | 'L' => some '\u2028'
  | 'P' => some '\u2029'
  | _ => none

def escapeLength? : Char → Option Nat
  | 'x' => some 2
  | 'u' => some 4
  | 'U' => some 8
  | _ => none

def quotedBreaks : Nat → Place → Except Fault (List Char × Place)
  | 0, _ => malformed
  | fuel + 1, place =>
    if place.atSeparator then malformed
    else
      let place := place.skipWhile fun c => c = ' ' || c = '\t'
      if isBreak (place.peek 0) then do
        let (first, place) := place.lineBreak
        let (others, place) ← quotedBreaks fuel place
        return (first ++ others, place)
      else .ok ([], place)

/-- Blanks and line ends inside a quoted scalar. One line end becomes a blank. -/
def quotedSpaces (place : Place) : Except Fault (List Char × Place) :=
  let (blanks, place) := place.take (place.run fun c => c = ' ' || c = '\t')
  if place.rest.isEmpty then malformed
  else if isBreak (place.peek 0) then do
    let (first, place) := place.lineBreak
    let (breaks, place) ← quotedBreaks place.fuel place
    let joint := if first ≠ ['\n'] then first else if breaks.isEmpty then [' '] else []
    return (joint ++ breaks, place)
  else .ok (blanks, place)

/-- The number that an escape with so many digits gives, and what follows it. -/
def escapedNumber (length : Nat) (place : Place) : Except Fault (Nat × Place) :=
  let digits := (place.rest.take length).filterMap Json.hexValue?
  if digits.length ≠ length then malformed
  else .ok (digits.foldl (fun n d => 16 * n + d) 0, place.forward length)

def isHighHalf (number : Nat) : Bool := 0xd800 ≤ number && number < 0xdc00

/-- The second half of a character that is written as two escapes. -/
def lowHalf? (place : Place) : Option (Nat × Place) :=
  if place.peek 0 = '\\' && place.peek 1 = 'u' then
    match escapedNumber 4 (place.forward 2) with
    | .ok (number, place) =>
      if 0xdc00 ≤ number && number < 0xe000 then some (number, place) else none
    | .error _ => none
  else none

/-- The character with a number. Half of a character that stands alone reads as the replacement
character. -/
def characterOf (number : Nat) (place : Place) : Except Fault (Char × Place) :=
  if 0x10ffff < number then noValue (.character number)
  else if isHighHalf number then match lowHalf? place with
    | some (low, place) =>
      .ok (Char.ofNat (0x10000 + (number - 0xd800) * 1024 + (low - 0xdc00)), place)
    | none => .ok ('\ufffd', place)
  else if 0xdc00 ≤ number && number < 0xe000 then .ok ('\ufffd', place)
  else .ok (Char.ofNat number, place)

/-- The characters of a quoted scalar up to a gap or a closing quote. -/
def quotedChars (double : Bool) : Nat → Place → Except Fault (List Char × Place)
  | 0, _ => malformed
  | fuel + 1, place =>
    let isPlain (c : Char) : Bool := !(c = '\'' || c = '"' || c = '\\' || isGap c)
    let (plain, place) := place.take (place.run isPlain)
    let continue_ (found : List Char) (place : Place) : Except Fault (List Char × Place) := do
      let (others, place) ← quotedChars double fuel place
      return (plain ++ found ++ others, place)
    let c := place.peek 0
    if !double && c = '\'' && place.peek 1 = '\'' then continue_ ['\''] (place.forward 2)
    else if (double && c = '\'') || (!double && (c = '"' || c = '\\')) then continue_ [c] place.next
    else if double && c = '\\' then
      let place := place.next
      let e := place.peek 0
      match escapedChar? e, escapeLength? e with
      | some found, _ => if place.rest.isEmpty then malformed else continue_ [found] place.next
      | none, some length => do
        let (number, place) ← escapedNumber length place.next
        let (found, place) ← characterOf number place
        continue_ [found] place
      | none, none =>
        if isBreak e then do
          let (_, place) := place.lineBreak
          let (breaks, place) ← quotedBreaks place.fuel place
          continue_ breaks place
        else malformed
    else .ok (plain, place)

/-- The rest of a quoted scalar, with its closing quote. -/
def quotedRest (double : Bool) : Nat → Place → Except Fault (List Char × Place)
  | 0, _ => malformed
  | fuel + 1, place => do
    let (chars, place) ← quotedChars double place.fuel place
    if place.peek 0 = (if double then '"' else '\'') then return (chars, place.next)
    else
      let (spaces, place) ← quotedSpaces place
      let (others, place) ← quotedRest double fuel place
      return (chars ++ spaces ++ others, place)

/-- The empty lines after a line of a plain scalar; nothing when a document ends there. -/
def plainBreaks : Nat → Place → Option (List Char) × Place
  | 0, place => (none, place)
  | fuel + 1, place =>
    if place.peek 0 = ' ' then plainBreaks fuel place.next
    else if isBreak (place.peek 0) then
      let (first, place) := place.lineBreak
      if place.atSeparator then (none, place)
      else
        let (others, place) := plainBreaks fuel place
        (others.map (first ++ ·), place)
    else (some [], place)

/-- What stands between two runs of a plain scalar, and whether a line ended. -/
def plainSpaces (place : Place) : List Char × Bool × Place :=
  let (blanks, place) := place.take (place.run (· = ' '))
  if isBreak (place.peek 0) then
    let (first, place) := place.lineBreak
    if place.atSeparator then ([], true, place)
    else match plainBreaks place.fuel place with
      | (none, place) => ([], true, place)
      | (some breaks, place) =>
        let joint := if first ≠ ['\n'] then first else if breaks.isEmpty then [' '] else []
        (joint ++ breaks, true, place)
  else (blanks, false, place)

def isFlowMark (c : Char) : Bool := c = ',' || c = '[' || c = ']' || c = '\x7b' || c = '\x7d'

def plainRun (inFlow : Bool) : List Char → Nat
  | [] => 0
  | c :: rest =>
    let follower := rest.headD endMark
    let stops := isGap c || (c = ':' && (isGap follower || (inFlow && isFlowMark follower))) ||
      (inFlow && (c = '?' || isFlowMark c))
    if stops then 0 else plainRun inFlow rest + 1

/-- A plain scalar: its text, and whether its last gap held a line end. -/
def plainText (inFlow : Bool) (indent : Int) : Nat → List Char → Place → List Char × Bool × Place
  | 0, _, place => ([], false, place)
  | fuel + 1, gap, place =>
    let length := plainRun inFlow place.rest
    if place.peek 0 = '#' || length = 0 then ([], false, place)
    else
      let (chars, place) := place.take length
      let (spaces, ended, place) := plainSpaces place
      if spaces.isEmpty || place.peek 0 = '#' || (!inFlow && (place.column : Int) < indent) then
        (gap ++ chars, ended, place)
      else
        let (others, endedLater, after) := plainText inFlow indent fuel spaces place
        (gap ++ chars ++ others, if others.isEmpty then ended else endedLater, after)

inductive Chomping where
  | strip | clip | keep
  deriving DecidableEq, Repr

/-- How a block scalar ends, if it is said. -/
def chomping? (place : Place) : Option (Chomping × Place) :=
  if place.peek 0 = '+' then some (.keep, place.next)
  else if place.peek 0 = '-' then some (.strip, place.next)
  else none

/-- How far a block scalar is indented, if it is said; it cannot be by nothing. -/
def increment? (place : Place) : Option (Option Nat × Place) :=
  let c := place.peek 0
  if c.isDigit then if c = '0' then none else some (some (c.toNat - 48), place.next)
  else some (none, place)

def blockHeader (place : Place) : Option (Chomping × Option Nat × Place) := do
  let (chomping, increment, place) ← match chomping? place with
    | some (chomping, place) => do
      let (increment, place) ← increment? place
      pure (chomping, increment, place)
    | none => do
      let (increment, place) ← increment? place
      match increment, chomping? place with
      | some _, some (chomping, place) => pure (chomping, increment, place)
      | _, _ => pure (.clip, increment, place)
  let c := place.peek 0
  if c = ' ' || isBreakOrEnd c then return (chomping, increment, place) else none

/-- The rest of a line that holds nothing but blanks and a comment. -/
def ignoredLine (place : Place) : Option Place :=
  let place := place.skipWhile (· = ' ')
  let place := if place.peek 0 = '#' then place.skipWhile fun c => !isBreak c else place
  if isBreakOrEnd (place.peek 0) then some place.lineBreak.2 else none

/-- The empty lines before the first line of a block scalar, and the widest indentation so far. -/
def blockIndentation : Nat → Nat → Place → List Char × Nat × Place
  | 0, widest, place => ([], widest, place)
  | fuel + 1, widest, place =>
    if place.peek 0 = ' ' then
      let place := place.next
      blockIndentation fuel (max widest place.column) place
    else if isBreak (place.peek 0) then
      let (first, place) := place.lineBreak
      let (others, widest, place) := blockIndentation fuel widest place
      (first ++ others, widest, place)
    else ([], widest, place)

def skipIndentation (indent : Nat) (place : Place) : Place :=
  place.forward (min (indent - place.column) (place.run (· = ' ')))

def blockBreaks (indent : Nat) : Nat → Place → List Char × Place
  | 0, place => ([], place)
  | fuel + 1, start =>
    let place := skipIndentation indent start
    if isBreak (place.peek 0) then
      let (first, place) := place.lineBreak
      let (others, place) := blockBreaks indent fuel place
      (first ++ others, place)
    else ([], place)

/-- The lines of a block scalar, with the last line end and the empty lines after it. -/
def blockLines (folded : Bool) (indent : Nat) :
    Nat → List Char → Place → List Char × List Char × List Char × Place
  | 0, breaks, place => ([], [], breaks, place)
  | fuel + 1, breaks, place =>
    if place.column = indent && !place.rest.isEmpty then
      let isBlank (c : Char) : Bool := c = ' ' || c = '\t'
      let starts := !isBlank (place.peek 0)
      let (line, place) := place.take (place.run fun c => !isBreak c)
      let (ending, place) := place.lineBreak
      let (later, place) := blockBreaks indent place.fuel place
      if place.column = indent && !place.rest.isEmpty then
        let folds := folded && ending = ['\n'] && starts && !isBlank (place.peek 0)
        let joint := if folds then (if later.isEmpty then [' '] else []) else ending
        let (others, last, after, place) := blockLines folded indent fuel later place
        (breaks ++ line ++ joint ++ others, last, after, place)
      else (breaks ++ line, ending, later, place)
    else ([], [], breaks, place)

def blockText (folded : Bool) (outer : Int) (place : Place) : Except Fault (List Char × Place) := do
  let (chomping, increment, place) ← needed (blockHeader place)
  let place ← needed (ignoredLine place)
  let least := (max (outer + 1) 1).toNat
  let (breaks, indent, place) := match increment with
    | none =>
      let (breaks, widest, place) := blockIndentation place.fuel 0 place
      (breaks, max least widest, place)
    | some increment =>
      let indent := least + increment - 1
      let (breaks, place) := blockBreaks indent place.fuel place
      (breaks, indent, place)
  let (lines, ending, later, place) := blockLines folded indent place.fuel breaks place
  return (lines ++ (if chomping = .strip then [] else ending) ++
    (if chomping = .keep then later else []), place)

def isNameChar (c : Char) : Bool := c.isAlphanum || c = '-' || c = '_'

def anchorName (place : Place) : Except Fault (String × Place) :=
  let (name, place) := place.take (place.run isNameChar)
  let c := place.peek 0
  if name.isEmpty then malformed
  else if isGap c || "?:,]\x7d%@\x60".toList.contains c then .ok (String.ofList name, place)
  else malformed

/-- The characters of a tag that stand for themselves. -/
def isUriChar (c : Char) : Bool := c.isAlphanum || "-;/?:@&=+$,_.!~*'()[]".toList.contains c

/-- Octets that are written by their numbers. -/
def uriOctets : Nat → Place → Except Fault (List Nat × Place)
  | 0, _ => malformed
  | fuel + 1, place =>
    if place.peek 0 = '%' then do
      let (octet, place) ← escapedNumber 2 place.next
      let (others, place) ← uriOctets fuel place
      return (octet :: others, place)
    else .ok ([], place)

def uriChars : Nat → Place → Except Fault (List Char × Place)
  | 0, _ => malformed
  | fuel + 1, place =>
    let (plain, place) := place.take (place.run isUriChar)
    if place.peek 0 = '%' then do
      let (octets, place) ← uriOctets place.fuel place
      match Text.decodeUtf8 octets with
      | .error _ => malformed
      | .ok text =>
        let (others, place) ← uriChars fuel place
        return (plain ++ text.toList ++ others, place)
    else .ok (plain, place)

/-- What a tag is called, after its handle; there has to be something. -/
def uriText (place : Place) : Except Fault (String × Place) := do
  let (chars, place) ← uriChars place.fuel place
  if chars.isEmpty then malformed else return (String.ofList chars, place)

def handleName (place : Place) : Except Fault (String × Place) :=
  let (name, place) := place.take (place.run isNameChar)
  if place.peek 0 = '!' then .ok ("!" ++ String.ofList name ++ "!", place.next) else malformed

def endsWord (c : Char) : Bool := c = ' ' || isBreakOrEnd c

def tagName (place : Place) : Except Fault (Option String × String × Place) := do
  let c := place.peek 0
  let (handle, suffix, place) ←
    if c = '<' then do
      let (uri, place) ← uriText place.next
      if place.peek 0 = '>' then pure (none, uri, place.next) else malformed
    else if isGap c then pure (none, "!", place)
    else do
      let (handle, place) ←
        if (place.rest.takeWhile (!endsWord ·)).contains '!' then handleName place
        else pure ("!", place)
      let (uri, place) ← uriText place
      pure (some handle, uri, place)
  if endsWord (place.peek 0) then return (handle, suffix, place) else malformed

def versionNumber (room : Room) (place : Place) : Except Fault (Nat × Place) :=
  let (digits, place) := place.take (place.run Char.isDigit)
  if digits.isEmpty then malformed
  else if room.admits digits.length then .ok (digits.foldl (fun n c => 10 * n + (c.toNat - 48)) 0, place)
  else noValue (.limit (room.tooLong digits.length))

def directiveOf (room : Room) (name : List Char) (place : Place) : Except Fault (Token × Place) :=
  if name = "YAML".toList then do
    let (major, place) ← versionNumber room (place.skipWhile (· = ' '))
    if place.peek 0 ≠ '.' then malformed
    else
      let (_, place) ← versionNumber room place.next
      if endsWord (place.peek 0) then return (.version major, place) else malformed
  else if name = "TAG".toList then do
    let place := place.skipWhile (· = ' ')
    if place.peek 0 ≠ '!' then malformed
    else
      let place := place.next
      let (handle, place) ← if place.peek 0 = ' ' then pure ("!", place) else handleName place
      if place.peek 0 ≠ ' ' then malformed
      else
        let (beginning, place) ← uriText (place.skipWhile (· = ' '))
        if endsWord (place.peek 0) then return (.handle handle beginning, place) else malformed
  else .ok (.directive, place.skipWhile fun c => !isBreak c)

def directiveLine (room : Room) (place : Place) : Except Fault (Token × Place) := do
  let (name, place) := place.take (place.run isNameChar)
  if name.isEmpty || !endsWord (place.peek 0) then malformed
  else
    let (token, place) ← directiveOf room name place
    return (token, ← needed (ignoredLine place))

/-- What may turn out to be a key: how many tokens come before it, where it starts, and whether the
indentation demands that it is one. -/
structure PossibleKey where
  level : Nat
  tokens : Nat
  required : Bool
  index : Nat
  line : Nat
  column : Nat

/-- What is known between two tokens. The tokens found so far are held with the last one first,
beside their number: a key goes in front of few of them. -/
structure Scan where
  room : Room
  place : Place
  tokens : List Token := []
  count : Nat := 0
  level : Nat := 0
  indent : Int := -1
  indents : List Int := []
  keyAllowed : Bool := true
  keys : List PossibleKey := []

namespace Scan

def push (scan : Scan) (token : Token) : Scan :=
  { scan with tokens := token :: scan.tokens, count := scan.count + 1 }

/-- Puts a token in front of those that were found after a place. -/
def insert (scan : Scan) (position : Nat) (token : Token) : Scan :=
  { scan with
    tokens := scan.tokens.insertIdx (scan.count - position) token
    count := scan.count + 1 }

/-- Closes the blocks that are indented more than a column. -/
def unwind (column : Int) : List Int → Scan → Scan
  | [], scan => scan
  | outer :: others, scan =>
    if column < scan.indent then
      unwind column others { (scan.push .blockEnd) with indent := outer, indents := others }
    else scan

/-- Closes blocks, unless brackets are open. -/
def close (scan : Scan) (column : Int) : Scan :=
  if scan.level > 0 then scan else unwind column scan.indents scan

/-- Opens a block at a column that lies deeper; the token is put at a position. -/
def openBlock (scan : Scan) (column : Nat) (position : Nat) (token : Token) : Scan :=
  if scan.indent < column then
    { (scan.insert position token) with indent := column, indents := scan.indent :: scan.indents }
  else scan

/-- Drops the possible key of the current level, unless it has to be one. -/
def dropKey (scan : Scan) : Except Fault Scan :=
  let (own, others) := scan.keys.partition (·.level = scan.level)
  if own.any (·.required) then malformed else .ok { scan with keys := others }

/-- Drops possible keys that lie on an earlier line or too far back. -/
def dropStale (scan : Scan) : Except Fault Scan :=
  let (stale, fresh) := scan.keys.partition fun key =>
    key.line ≠ scan.place.line || scan.place.index - key.index > 1024
  if stale.any (·.required) then malformed else .ok { scan with keys := fresh }

/-- Remembers that a key may start here. -/
def saveKey (scan : Scan) : Except Fault Scan :=
  if scan.keyAllowed then do
    let scan ← scan.dropKey
    let place := scan.place
    let key : PossibleKey := {
      level := scan.level
      tokens := scan.count
      required := scan.level = 0 && scan.indent = place.column
      index := place.index
      line := place.line
      column := place.column }
    return { scan with keys := key :: scan.keys }
  else .ok scan

/-- Passes over blanks, comments and line ends. -/
def skipGap : Nat → Scan → Scan
  | 0, scan => scan
  | fuel + 1, scan =>
    let place := scan.place.skipWhile (· = ' ')
    let place := if place.peek 0 = '#' then place.skipWhile fun c => !isBreak c else place
    if isBreak (place.peek 0) then
      skipGap fuel { scan with
        place := place.lineBreak.2
        keyAllowed := scan.keyAllowed || scan.level = 0 }
    else { scan with place }

/-- Takes marks as one token. -/
def takeMark (scan : Scan) (length : Nat) (token : Token) : Scan :=
  { (scan.push token) with place := scan.place.forward length }

def separator (scan : Scan) (token : Token) : Except Fault Scan := do
  let scan ← (scan.close (-1)).dropKey
  return { (scan.takeMark 3 token) with keyAllowed := false }

def directive (scan : Scan) : Except Fault Scan := do
  let scan ← (scan.close (-1)).dropKey
  let (token, place) ← directiveLine scan.room scan.place.next
  return { (scan.push token) with place, keyAllowed := false }

def flowStart (scan : Scan) (token : Token) : Except Fault Scan := do
  let scan ← scan.saveKey
  return { (scan.takeMark 1 token) with level := scan.level + 1, keyAllowed := true }

def flowEnd (scan : Scan) (token : Token) : Except Fault Scan := do
  let scan ← scan.dropKey
  if scan.level = 0 then malformed
  else return { (scan.takeMark 1 token) with level := scan.level - 1, keyAllowed := false }

def flowEntry (scan : Scan) : Except Fault Scan := do
  let scan ← scan.dropKey
  return { (scan.takeMark 1 .flowEntry) with keyAllowed := true }

def blockEntry (scan : Scan) : Except Fault Scan :=
  if scan.level = 0 && !scan.keyAllowed then malformed
  else do
    let scan := if scan.level = 0
      then scan.openBlock scan.place.column scan.count .blockSequence else scan
    let scan ← scan.dropKey
    return { (scan.takeMark 1 .blockEntry) with keyAllowed := true }

def keyMark (scan : Scan) : Except Fault Scan :=
  if scan.level = 0 && !scan.keyAllowed then malformed
  else do
    let scan := if scan.level = 0
      then scan.openBlock scan.place.column scan.count .blockMapping else scan
    let scan ← scan.dropKey
    return { (scan.takeMark 1 .key) with keyAllowed := scan.level = 0 }

/-- A colon: what stands before it is a key when it may be one. -/
def valueMark (scan : Scan) : Except Fault Scan :=
  let (own, others) := scan.keys.partition (·.level = scan.level)
  match own with
  | key :: _ =>
    let scan := { scan with keys := others }.insert key.tokens .key
    let scan := if scan.level = 0 then scan.openBlock key.column key.tokens .blockMapping else scan
    .ok { (scan.takeMark 1 .value) with keyAllowed := false }
  | [] =>
    if scan.level = 0 && !scan.keyAllowed then malformed
    else do
      let scan := if scan.level = 0
        then scan.openBlock scan.place.column scan.count .blockMapping else scan
      let scan ← scan.dropKey
      return { (scan.takeMark 1 .value) with keyAllowed := scan.level = 0 }

/-- A name or a tag with its mark. -/
def marked (scan : Scan) (read : Place → Except Fault (Token × Place)) : Except Fault Scan := do
  let scan ← scan.saveKey
  let (token, place) ← read scan.place.next
  return { (scan.push token) with place, keyAllowed := false }

def blockScalar (scan : Scan) (folded : Bool) : Except Fault Scan := do
  let scan ← scan.dropKey
  let (text, place) ← blockText folded scan.indent scan.place.next
  return { (scan.push (.scalar (String.ofList text) false)) with place, keyAllowed := true }

def quoted (scan : Scan) (double : Bool) : Except Fault Scan :=
  scan.marked fun place => do
    let (text, place) ← quotedRest double place.fuel place
    return (.scalar (String.ofList text) false, place)

def plain (scan : Scan) : Except Fault Scan := do
  let scan ← scan.saveKey
  let (text, ended, place) :=
    plainText (scan.level > 0) (scan.indent + 1) scan.place.fuel [] scan.place
  return { (scan.push (.scalar (String.ofList text) true)) with place, keyAllowed := ended }

def startsPlain (scan : Scan) : Bool :=
  let c := scan.place.peek 0
  let follower := scan.place.peek 1
  !(isGap c || "-?:,[]\x7b\x7d#&*!|>'\"%@\x60".toList.contains c) ||
    (!isGap follower && (c = '-' || (scan.level = 0 && (c = '?' || c = ':'))))

def step (scan : Scan) : Except Fault Scan :=
  let place := scan.place
  let c := place.peek 0
  let gapFollows := isGap (place.peek 1)
  let inFlow := scan.level > 0
  let separates := place.column = 0 && place.atSeparator
  if c = '%' && place.column = 0 then scan.directive
  else if c = '-' && separates then scan.separator .documentStart
  else if c = '.' && separates then scan.separator .documentEnd
  else if c = '[' then scan.flowStart .flowSequence
  else if c = '\x7b' then scan.flowStart .flowMapping
  else if c = ']' then scan.flowEnd .flowSequenceEnd
  else if c = '\x7d' then scan.flowEnd .flowMappingEnd
  else if c = ',' then scan.flowEntry
  else if c = '-' && gapFollows then scan.blockEntry
  else if c = '?' && (inFlow || gapFollows) then scan.keyMark
  else if c = ':' && (inFlow || gapFollows) then scan.valueMark
  else if c = '*' then scan.marked fun place => do
    let (name, place) ← anchorName place
    return (.alias name, place)
  else if c = '&' then scan.marked fun place => do
    let (name, place) ← anchorName place
    return (.anchor name, place)
  else if c = '!' then scan.marked fun place => do
    let (handle, suffix, place) ← tagName place
    return (.tag handle suffix, place)
  else if c = '|' && !inFlow then scan.blockScalar false
  else if c = '>' && !inFlow then scan.blockScalar true
  else if c = '\'' then scan.quoted false
  else if c = '"' then scan.quoted true
  else if scan.startsPlain then scan.plain
  else malformed

def finish (scan : Scan) : Except Fault Scan := do
  let scan ← (scan.close (-1)).dropKey
  return scan.push .streamEnd

def advance (scan : Scan) : Except Fault Scan := do
  let scan ← (skipGap scan.place.fuel scan).dropStale
  let scan := scan.close scan.place.column
  if scan.place.rest.isEmpty then scan.finish else scan.step

/-- How many tokens are certain: none is from the first on that may still turn out to be a key. -/
def certain (scan : Scan) : Nat :=
  let keys := match scan.dropStale with
    | .ok scan => scan.keys
    | .error _ => scan.keys
  keys.foldl (fun count key => min count key.tokens) scan.count

/-- All tokens, up to a fault if there is one. Then only those count that are certain. -/
def loop : Nat → Scan → List Token × Option Fault
  | 0, scan => (scan.tokens.reverse, some .malformed)
  | fuel + 1, scan => match scan.advance with
    | .error fault =>
      ((.broken :: scan.tokens.drop (scan.count - scan.certain)).reverse, some fault)
    | .ok next =>
      if next.tokens.head? = some .streamEnd then (next.tokens.reverse, none) else loop fuel next

end Scan

/-- All tokens of a text, with the fault at which they end. -/
def tokenize (room : Room) (text : List Char) : List Token × Option Fault :=
  if text.all isPrintable then
    let text := if text.head? = some '\ufeff' then text.drop 1 else text
    Scan.loop (text.length + 1) { room, place := .ofText text }
  else ([.broken], some .malformed)

end Prism.Yaml
