import Prism.Document.Order

namespace Prism

/-- A frozen value. Tuples and sets are kept as they are. -/
inductive Frozen where
  | scalar (value : Scalar)
  | list (items : List Frozen)
  | kept (value : Doc)
  deriving Inhabited

/-- Why a value cannot be gone through: two values under keys that read the same have no order, or a limit is
met. -/
inductive Obstacle where
  | order (fault : OrderFault)
  | limit (met : Limit)
  deriving DecidableEq, Repr

def Obstacle.message : Obstacle → String
  | .order fault => fault.message
  | .limit met => met.message

def Obstacle.kind : Obstacle → String
  | .order _ => "TypeError"
  | .limit met => met.kind

namespace Frozen

abbrev null : Frozen := .scalar .null

def pair (key : String) (value : Frozen) : Frozen :=
  .list [.scalar (.text key), value]

mutual

def toDoc : Frozen → Doc
  | .scalar value => .scalar value
  | .list items => .tuple (docs items)
  | .kept value => value

def docs : List Frozen → List Doc
  | [] => []
  | item :: items => item.toDoc :: docs items

end

def isBefore (a b : Frozen) : Except OrderFault Bool :=
  if a.toDoc.same b.toDoc then .ok false else a.toDoc.less b.toDoc

/-- Puts an entry behind others, of which the last comes first. It passes those with the same key
that have larger values. -/
def place (entry : String × Frozen) :
    List (String × Frozen) → Except OrderFault (List (String × Frozen))
  | [] => .ok [entry]
  | last :: others =>
    if last.1 ≠ entry.1 then .ok (entry :: last :: others)
    else do
      if ← isBefore entry.2 last.2 then return last :: (← place entry others)
      else return entry :: last :: others

/-- Compares each entry with those before it that have the same key, which are given the last first. -/
def compareTwins (earlier : List (String × Frozen)) :
    List (String × Frozen) → Except OrderFault Unit
  | [] => .ok ()
  | entry :: entries => do
    for twin in earlier.filter (·.1 = entry.1) do
      let _ ← isBefore entry.2 twin.2
    compareTwins (entry :: earlier) entries

/-- Sorts entries by key, and those with the same key by value. Of values without an order those count
that are met first. -/
def arrange (entries : List (String × Frozen)) : Except OrderFault (List (String × Frozen)) := do
  compareTwins [] entries
  let placed ← (entries.mergeSort fun a b => a.1 ≤ b.1).foldlM (fun placed entry => place entry placed) []
  return placed.reverse

/-- Goes on with so many calls. -/
def taking {α : Type} (calls left : Nat) (next : Except Obstacle α) : Except Obstacle α :=
  if calls ≤ left then next else .error (.limit .calls)

/-- The text of a key. -/
def keyText (room : Room) (key : Scalar) : Except Obstacle String :=
  if key.isSpelled room then .ok key.plain else .error (.limit room.unspelled)

mutual

/-- Freezes a value with so many calls. A list and a map take two, one for the value and one for going through
its parts. What holds itself takes more than there are. -/
def ofDoc (room : Room) (left : Nat) : Doc → Except Obstacle Frozen
  | .scalar value => taking 1 left (.ok (.scalar value))
  | .list items => taking 2 left do return .list (← ofItems room (left - 2) items)
  | .map entries => taking 2 left do
    let arranged ← (arrange (← ofEntries room (left - 2) entries)).mapError .order
    return .list (arranged.map fun (key, value) => pair key value)
  | .tuple items => taking 1 left (.ok (.kept (.tuple items)))
  | .set members => taking 1 left (.ok (.kept (.set members)))
  | .loop _ _ => .error (.limit .calls)

def ofItems (room : Room) (left : Nat) : List Doc → Except Obstacle (List Frozen)
  | [] => .ok []
  | item :: items => do return (← ofDoc room left item) :: (← ofItems room left items)

def ofEntries (room : Room) (left : Nat) : List (Scalar × Doc) → Except Obstacle (List (String × Frozen))
  | [] => .ok []
  | (key, value) :: entries => do
    return (← keyText room key, ← ofDoc room left value) :: (← ofEntries room left entries)

end

end Frozen

namespace Doc

/-- A single value in JSON; `encode` says what becomes of those that JSON does not have. -/
def scalarJson (encode : Doc → Json) : Scalar → Json
  | .null => .null
  | .bool b => .bool b
  | .int n => .int n
  | .float x => .float x
  | .text s => .text s
  | value => encode (.scalar value)

def keyText : Scalar → String
  | .null => "null"
  | .bool b => if b then "true" else "false"
  | key => key.plain

mutual

def toJson (encode : Doc → Json) : Doc → Json
  | .scalar value => scalarJson encode value
  | .list items => .list (itemsJson encode items)
  | .tuple items => .list (itemsJson encode items)
  | .map entries => .object (entriesJson encode entries)
  | .set members => encode (.set members)
  | .loop value _ => encode value

def itemsJson (encode : Doc → Json) : List Doc → List Json
  | [] => []
  | item :: items => item.toJson encode :: itemsJson encode items

def entriesJson (encode : Doc → Json) : List (Scalar × Doc) → List (String × Json)
  | [] => []
  | (key, value) :: entries => (keyText key, value.toJson encode) :: entriesJson encode entries

end

mutual

/-- Whether a value can be copied with so many calls. A list, a tuple and a map take two and a single value three;
what holds itself takes more than there are. -/
def isCopied (left : Nat) : Doc → Bool
  | .scalar _ => 3 ≤ left
  | .list items | .tuple items => 2 ≤ left && areCopied (left - 2) items
  | .map entries => 2 ≤ left && entriesCopied (left - 2) entries
  | .set _ => 8 ≤ left
  | .loop _ _ => false

def areCopied (left : Nat) : List Doc → Bool
  | [] => true
  | item :: items => item.isCopied left && areCopied left items

def entriesCopied (left : Nat) : List (Scalar × Doc) → Bool
  | [] => true
  | (_, value) :: entries => value.isCopied left && entriesCopied left entries

end

mutual

/-- Whether all whole numbers of a value can be written. -/
def isWritten (room : Room) : Doc → Bool
  | .scalar value => value.isSpelled room
  | .list items | .tuple items => areWritten room items
  | .map entries => entriesWritten room entries
  | .set members => members.all (·.isSpelled room)
  | .loop _ _ => true

def areWritten (room : Room) : List Doc → Bool
  | [] => true
  | item :: items => item.isWritten room && areWritten room items

def entriesWritten (room : Room) : List (Scalar × Doc) → Bool
  | [] => true
  | (key, value) :: entries => key.isSpelled room && value.isWritten room && entriesWritten room entries

end

end Doc

namespace Frozen

def isCopied (left : Nat) (value : Frozen) : Bool := value.toDoc.isCopied left

def isWritten (room : Room) (value : Frozen) : Bool := value.toDoc.isWritten room

end Frozen

mutual

def Frozen.toJson (encode : Doc → Json) : Frozen → Json
  | .scalar value => Doc.scalarJson encode value
  | .list items => .list (Frozen.itemsJson encode items)
  | .kept value => value.toJson encode

def Frozen.itemsJson (encode : Doc → Json) : List Frozen → List Json
  | [] => []
  | item :: items => item.toJson encode :: Frozen.itemsJson encode items

end

end Prism
