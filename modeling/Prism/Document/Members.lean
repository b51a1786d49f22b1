import Prism.Document.Equality

namespace Prism.Members

/-- The prime to which hashes of numbers are reduced. -/
def modulus : Nat := Nat.pow 2 61 - 1

/-- The hash of a quotient with a power of two below the line. Halves are taken as products with the
inverse of two, of which the 61st power is one. -/
def quotientHash (numerator halvings : Nat) : Nat :=
  numerator * Nat.pow 2 (61 - halvings % 61) % modulus

/-- A hash with its sign, as a word of 64 bits; it is never minus one. -/
def word (negative : Bool) (magnitude : Nat) : Nat :=
  if !negative || magnitude = 0 then magnitude
  else Nat.pow 2 64 - (if magnitude = 1 then 2 else magnitude)

def hash? : Scalar → Option Nat
  | .bool b => some (if b then 1 else 0)
  | .int n => some (word (n < 0) (n.natAbs % modulus))
  | .float x => match Decimal.valueOf x with
    | .undefined => none
    | .infinite negative => some (word negative 314159)
    | .finite dyadic =>
      let (numerator, denominator) := dyadic.ratio
      some (word dyadic.negative (quotientHash numerator denominator.log2))
  | _ => none

abbrev Entry := Nat × Scalar

abbrev Table := List (Nat × Entry)

/-- How many places after the first are looked at before another is tried. -/
def neighbours : Nat := 9

/-- The first free place for a hash, of `mask + 1` places. -/
def freePlace (mask : Nat) (taken : List Nat) : Nat → Nat → Nat → Nat
  | 0, place, _ => place
  | fuel + 1, place, left =>
    let last := if place + neighbours ≤ mask then place + neighbours else place
    match ((List.range (last + 1)).drop place).find? (!taken.contains ·) with
    | some free => free
    | none =>
      let left := left / 32
      freePlace mask taken fuel ((place * 5 + 1 + left) % (mask + 1)) left

def insert (mask : Nat) (table : Table) (entry : Entry) : Table :=
  let place := freePlace mask (table.map (·.1)) (mask + 64) (entry.1 % (mask + 1)) entry.1
  (place, entry) :: table

def told (table : Table) : List Entry :=
  (table.mergeSort fun a b => a.1 ≤ b.1).map (·.2)

/-- The smallest number of places above a number: eight, or twice as many again and again. -/
def sizeAbove (least : Nat) : Nat → Nat → Nat
  | 0, size => size
  | fuel + 1, size => if size ≤ least then sizeAbove least fuel (2 * size) else size

def places (least : Nat) : Nat := sizeAbove least least 8

/-- Whether so many members are too many for the places. -/
def isCrowded (members mask : Nat) : Bool := mask * 3 ≤ members * 5

/-- Members put in at once: there are places for all of them from the start. -/
def fill (entries : List Entry) : List Entry :=
  let count := entries.length
  let size := if isCrowded count 7 then places (2 * count) else 8
  told (entries.foldl (insert (size - 1)) [])

/-- Members put in one by one: the table grows when it is crowded. -/
def grow (entries : List Entry) : List Entry :=
  let step (state : Nat × Table) (entry : Entry) : Nat × Table :=
    let (mask, table) := state
    let table := insert mask table entry
    if isCrowded table.length mask then
      let mask := places (4 * table.length) - 1
      (mask, (told table).foldl (insert mask) [])
    else (mask, table)
  told (entries.foldl step (7, [])).2

def hashed? (members : List Scalar) : Option (List Entry) :=
  members.mapM fun member => (hash? member).map fun hash => (hash, member)

/-- The members in the order in which they are told. -/
def ordered (members : List Scalar) : List Scalar :=
  match hashed? members with
  | some entries => (fill entries).map (·.2)
  | none => members

/-- The members of a copy of the set in the order in which they are told. -/
def copied (members : List Scalar) : List Scalar :=
  match hashed? members with
  | some entries => (grow (fill entries)).map (·.2)
  | none => members

end Prism.Members
