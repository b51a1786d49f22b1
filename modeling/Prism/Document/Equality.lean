import Prism.Document.Basic

namespace Prism

/-- What a value counts, when it is a number or a flag. -/
def Scalar.count? : Scalar → Option Number
  | .bool b => some (.int (if b then 1 else 0))
  | .int n => some (.int n)
  | .float x => some (.float x)
  | _ => none

def Scalar.same (a b : Scalar) : Bool :=
  match a, b with
  | .null, .null => true
  | .text s, .text t => s = t
  | .moment m, .moment n => m.same n
  | .octets s, .octets t => s = t
  | a, b => match a.count?, b.count? with
    | some m, some n => m.eq n
    | _, _ => false

namespace Doc

mutual

def same : Doc → Doc → Bool
  | .scalar a, .scalar b => a.same b
  | .list a, .list b => sameItems a b
  | .tuple a, .tuple b => sameItems a b
  | .map a, .map b => a.length = b.length && sameEntries a b
  | .set a, .set b => a.length = b.length && a.all fun member => b.any member.same
  | _, _ => false

def sameItems : List Doc → List Doc → Bool
  | [], [] => true
  | a :: as, b :: bs => same a b && sameItems as bs
  | _, _ => false

/-- Whether each entry is among the others. -/
def sameEntries : List (Scalar × Doc) → List (Scalar × Doc) → Bool
  | [], _ => true
  | (key, value) :: entries, others =>
    (others.any fun (other, found) => key.same other && same value found) && sameEntries entries others

end

end Doc

end Prism
