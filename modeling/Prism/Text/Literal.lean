import Prism.Text.Printable

namespace Prism.Text

/-- The digits of a number to base sixteen, at least `width` of them. -/
def hexDigits (width n : Nat) : List Char :=
  let digits := Nat.toDigits 16 n
  List.replicate (width - digits.length) '0' ++ digits

/-- The mark that stands around the quoted text. -/
def quoteMark (text : List Char) : Char :=
  if text.contains '\'' && !text.contains '"' then '"' else '\''

def escaped (c : Char) : List Char :=
  if c.toNat < 0x100 then '\\' :: 'x' :: hexDigits 2 c.toNat
  else if c.toNat < 0x10000 then '\\' :: 'u' :: hexDigits 4 c.toNat
  else '\\' :: 'U' :: hexDigits 8 c.toNat

def quotedChar (mark c : Char) : List Char :=
  if c = mark || c = '\\' then ['\\', c]
  else if c = '\n' then ['\\', 'n']
  else if c = '\r' then ['\\', 'r']
  else if c = '\t' then ['\\', 't']
  else if isPrintable c then [c]
  else escaped c

def quotedChars (text : List Char) : List Char :=
  let mark := quoteMark text
  mark :: text.flatMap (quotedChar mark) ++ [mark]

/-- Octets as messages quote them: those of ASCII that show stand for themselves. -/
def quotedOctets (octets : List Nat) : String :=
  let chars := octets.map Char.ofNat
  let mark := quoteMark chars
  let inner := chars.flatMap fun c => if 0x7f ≤ c.toNat then escaped c else quotedChar mark c
  String.ofList ('b' :: mark :: inner ++ [mark])

/-- The text with every character outside ASCII written by its code. -/
def inAscii (text : String) : String :=
  String.ofList (text.toList.flatMap fun c => if c.toNat < 0x80 then [c] else escaped c)

def quoted (text : String) : String :=
  String.ofList (quotedChars text.toList)

end Prism.Text
