namespace Prism

/-- The choices of a type in their order, each with its label. -/
class Labelled (α : Type) where
  all : List α
  label : α → String

def Labelled.find? {α : Type} [Labelled α] (text : String) : Option α :=
  (Labelled.all : List α).find? fun choice => Labelled.label choice = text

export Labelled (label)

namespace Text

/-- The twenty-nine characters that separate words of free text. -/
def isBlank (c : Char) : Bool :=
  let n := c.toNat
  (9 ≤ n && n ≤ 13) || (28 ≤ n && n ≤ 32) || n == 0x85 || n == 0xa0 || n == 0x1680 ||
    (0x2000 ≤ n && n ≤ 0x200a) || n == 0x2028 || n == 0x2029 || n == 0x202f || n == 0x205f ||
    n == 0x3000

/-- The maximal runs of other characters, in order. -/
def blankFields : List Char → List (List Char)
  | [] => []
  | c :: rest =>
    if isBlank c then blankFields rest
    else match rest with
      | [] => [[c]]
      | d :: _ =>
        if isBlank d then [c] :: blankFields rest
        else match blankFields rest with
          | [] => [[c]]
          | field :: fields => (c :: field) :: fields

/-- The text without blanks at either end. -/
def stripChars (text : List Char) : List Char :=
  ((text.dropWhile isBlank).reverse.dropWhile isBlank).reverse

def strip (text : String) : String :=
  String.ofList (stripChars text.toList)

/-- Writes each of the three common line ends as a line feed. -/
def plainLineEnds : List Char → List Char
  | [] => []
  | '\r' :: '\n' :: rest => '\n' :: plainLineEnds rest
  | '\r' :: rest => '\n' :: plainLineEnds rest
  | c :: rest => c :: plainLineEnds rest

/-- The characters that end a line when lines are counted. -/
def endsLine (c : Char) : Bool :=
  let n := c.toNat
  (10 ≤ n && n ≤ 13) || (28 ≤ n && n ≤ 30) || n == 0x85 || n == 0x2028 || n == 0x2029

def occursIn (part : List Char) : List Char → Bool
  | [] => part.isEmpty
  | c :: rest => part.isPrefixOf (c :: rest) || occursIn part rest

/-- Whether the first text stands somewhere in the second. -/
def within (part text : String) : Bool :=
  occursIn part.toList text.toList

/-- Cuts the text at every separator character; there is one piece more than separators. -/
def splitAtChar (separator : Char) : List Char → List (List Char)
  | [] => [[]]
  | c :: rest =>
    if c = separator then [] :: splitAtChar separator rest
    else match splitAtChar separator rest with
      | [] => [[c]]
      | piece :: pieces => (c :: piece) :: pieces

def pieces (separator : Char) (text : String) : List String :=
  (splitAtChar separator text.toList).map String.ofList

/-- Replaces every occurrence of `part`, from left to right, by `other`; `skip` characters belong
to an occurrence already replaced. -/
def replaceFrom (part other : List Char) : Nat → List Char → List Char
  | _, [] => []
  | skip + 1, _ :: rest => replaceFrom part other skip rest
  | 0, c :: rest =>
    if part.isPrefixOf (c :: rest) then other ++ replaceFrom part other (part.length - 1) rest
    else c :: replaceFrom part other 0 rest

def replaceAll (part other text : String) : String :=
  String.ofList (replaceFrom part.toList other.toList 0 text.toList)

/-- The zeros of the scripts that have decimal digits of their own. -/
def digitZeros : Array Nat := #[
  0x30, 0x660, 0x6f0, 0x7c0, 0x966, 0x9e6, 0xa66, 0xae6, 0xb66, 0xbe6, 0xc66, 0xce6, 0xd66,
  0xde6, 0xe50, 0xed0, 0xf20, 0x1040, 0x1090, 0x17e0, 0x1810, 0x1946, 0x19d0, 0x1a80, 0x1a90,
  0x1b50, 0x1bb0, 0x1c40, 0x1c50, 0xa620, 0xa8d0, 0xa900, 0xa9d0, 0xa9f0, 0xaa50, 0xabf0,
  0xff10, 0x104a0, 0x10d30, 0x11066, 0x110f0, 0x11136, 0x111d0, 0x112f0, 0x11450, 0x114d0,
  0x11650, 0x116c0, 0x11730, 0x118e0, 0x11950, 0x11c50, 0x11d50, 0x11da0, 0x16a60, 0x16ac0,
  0x16b50, 0x1d7ce, 0x1d7d8, 0x1d7e2, 0x1d7ec, 0x1d7f6, 0x1e140, 0x1e2f0, 0x1e950, 0x1fbf0]

/-- The value of a decimal digit of any script. -/
def digitValue? (c : Char) : Option Nat :=
  let n := c.toNat
  (digitZeros.find? fun first => first ≤ n && n < first + 10).map (n - ·)

/-- Writes every decimal digit of the text with the ten usual signs. -/
def usualDigits (text : List Char) : List Char :=
  text.map fun c => match digitValue? c with
    | some value => Char.ofNat (48 + value)
    | none => c

/-- Whether the code point that lies so far from the start of the runs is inside. -/
def inRuns : List Nat → Nat → Bool
  | outside :: inside :: runs, n =>
    if n < outside + inside then outside ≤ n else inRuns runs (n - (outside + inside))
  | _, _ => false

end Text

end Prism
