namespace Prism

/-- What the machine leaves to a run. Whole numbers may have so many digits where they are read from texts and
written to them, or any number of digits. Each other number says how much deeper calls may go at one place: in
lists and objects of a JSON text, in collections of a YAML text, in values of a TOML text, in freezing the default of
a field, in showing a value that a message tells, in copying the default of a field for the fingerprint, and in
writing a cache. The initial numbers are those of a program that is called from the outside. -/
structure Room where
  digits : Option Nat := some 4300
  reading : Nat := 990
  composing : Nat := 488
  nesting : Nat := 985
  freezing : Nat := 990
  showing : Nat := 990
  copying : Nat := 970
  writing : Nat := 986
  deriving DecidableEq, Repr

namespace Room

/-- Whether whole numbers of so many digits are read and written. -/
def admits (room : Room) (count : Nat) : Bool := room.digits.all (count ≤ ·)

/-- Whether a whole number can be written. -/
def spells (room : Room) (n : Int) : Bool := room.admits (Nat.toDigits 10 n.natAbs).length

end Room

/-- Why something that is well formed cannot be gone through: a whole number has more digits than may be read, or
than may be written; values of a JSON text lie too deep, the last in a list or in an object; or calls go too deep,
in showing a value, in writing one, or elsewhere. -/
inductive Limit where
  | digits (most count : Nat)
  | spelling (most : Nat)
  | depth (inList : Bool)
  | showing
  | writing
  | calls
  deriving DecidableEq, Repr

namespace Limit

def message : Limit → String
  | digits most count => "Exceeds the limit (" ++ most.repr ++
      " digits) for integer string conversion: value has " ++ count.repr ++
      " digits; use sys.set_int_max_str_digits() to increase the limit"
  | spelling most => "Exceeds the limit (" ++ most.repr ++
      " digits) for integer string conversion; use sys.set_int_max_str_digits() to increase the limit"
  | depth inList => "maximum recursion depth exceeded while decoding a JSON " ++
      (if inList then "array" else "object") ++ " from a unicode string"
  | showing => "maximum recursion depth exceeded while getting the repr of an object"
  | writing => "maximum recursion depth exceeded while calling a Python object"
  | calls => "maximum recursion depth exceeded"

def kind : Limit → String
  | digits _ _ | spelling _ => "ValueError"
  | depth _ | showing | writing | calls => "RecursionError"

end Limit

namespace Room

/-- What is met where a whole number has too many digits. -/
def tooLong (room : Room) (count : Nat) : Limit := .digits (room.digits.getD 0) count

def unspelled (room : Room) : Limit := .spelling (room.digits.getD 0)

end Room

end Prism
