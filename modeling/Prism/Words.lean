namespace Prism.Words

/-- The length of the word that a text starts with, zero when it starts with none. -/
def leadLength (text : List Char) : Nat :=
  let capitals := (text.takeWhile Char.isUpper).length
  let smalls := ((text.dropWhile Char.isUpper).takeWhile Char.isLower).length
  if capitals = 0 && smalls = 0 then (text.takeWhile Char.isDigit).length
  else if smalls = 0 then capitals
  else if capitals ≤ 1 then capitals + smalls
  else capitals - 1

/-- The words of a text as they are written, when its first `taken` characters belong to a word that
is already read. -/
def segmentsAfter : (taken : Nat) → List Char → List (List Char)
  | _, [] => []
  | taken + 1, _ :: rest => segmentsAfter taken rest
  | 0, c :: rest => match leadLength (c :: rest) with
    | 0 => segmentsAfter 0 rest
    | more + 1 => (c :: rest.take more) :: segmentsAfter more rest

def segments (text : List Char) : List (List Char) := segmentsAfter 0 text

/-- The words in small letters. -/
def splitChars (text : List Char) : List (List Char) :=
  (segments text).map fun word => word.map Char.toLower

def split (text : String) : List String :=
  (splitChars text.toList).map String.ofList

def capitalize : List Char → List Char
  | [] => []
  | c :: rest => c.toUpper :: rest

def pascalChars (words : List (List Char)) : List Char :=
  words.flatMap capitalize

def camelChars : List (List Char) → List Char
  | [] => []
  | word :: words => word ++ pascalChars words

def joinChars (separator : Char) : List (List Char) → List Char
  | [] => []
  | [word] => word
  | word :: words => word ++ separator :: joinChars separator words

/-- All words with a capital in front, as in `OrderItem`. -/
def pascal (text : String) : String :=
  String.ofList (pascalChars (splitChars text.toList))

/-- All words but the first with a capital in front, as in `orderItem`. -/
def camel (text : String) : String :=
  String.ofList (camelChars (splitChars text.toList))

/-- Small words with underscores between them, as in `order_item`. -/
def snake (text : String) : String :=
  String.ofList (joinChars '_' (splitChars text.toList))

/-- Small words with hyphens between them, as in `order-item`. -/
def kebab (text : String) : String :=
  String.ofList (joinChars '-' (splitChars text.toList))

/-- Two names with the same key have the same identifiers and paths in every language. -/
def key (text : String) : String := snake text

/-- The name of an element without regard to a language; emitted names are compared with it. -/
def canonical (text : String) : String := camel text

end Prism.Words
