import Prism.Text.Literal

namespace Prism.Text

inductive OctetFault where
  | start
  | continuation
  | truncated
  deriving DecidableEq, Repr

/-- The octets from `first` up to, not including, `past` do not decode. -/
structure Utf8Fault where
  first : Nat
  past : Nat
  octet : Nat
  reason : OctetFault
  deriving DecidableEq, Repr

namespace OctetFault

def message : OctetFault → String
  | start => "invalid start byte"
  | continuation => "invalid continuation byte"
  | truncated => "unexpected end of data"

end OctetFault

def Utf8Fault.message (fault : Utf8Fault) : String :=
  if fault.past = fault.first + 1 then
    "'utf-8' codec can't decode byte 0x" ++ String.ofList (hexDigits 2 fault.octet) ++
      " in position " ++ fault.first.repr ++ ": " ++ fault.reason.message
  else
    "'utf-8' codec can't decode bytes in position " ++ fault.first.repr ++ "-" ++
      (fault.past - 1).repr ++ ": " ++ fault.reason.message

def isTail (b : Nat) : Bool := 0x80 ≤ b && b ≤ 0xbf

/-- Whether the octet may follow the first octet of a character of three or four: the range is
narrower where a longer form, a surrogate or a point past the last would begin. -/
def isSecond (a b : Nat) : Bool :=
  isTail b && !(a == 0xe0 && b < 0xa0) && !(a == 0xed && 0xa0 ≤ b) && !(a == 0xf0 && b < 0x90) &&
    !(a == 0xf4 && 0x90 ≤ b)

/-- Decodes octets, the first of which stands at `position` of the whole. -/
def decodeUtf8From (position : Nat) : List Nat → Except Utf8Fault (List Char)
  | [] => .ok []
  | a :: rest =>
    let fault (size : Nat) (reason : OctetFault) : Except Utf8Fault (List Char) :=
      .error ⟨position, position + size, a, reason⟩
    if a < 0x80 then return Char.ofNat a :: (← decodeUtf8From (position + 1) rest)
    else if a < 0xc2 || 0xf5 ≤ a then fault 1 .start
    else if a < 0xe0 then match rest with
      | [] => fault 1 .truncated
      | b :: rest =>
        if !isTail b then fault 1 .continuation
        else return Char.ofNat ((a - 0xc0) * 64 + (b - 0x80)) ::
          (← decodeUtf8From (position + 2) rest)
    else if a < 0xf0 then match rest with
      | [] => fault 1 .truncated
      | [b] => if isSecond a b then fault 2 .truncated else fault 1 .continuation
      | b :: c :: rest =>
        if !isSecond a b then fault 1 .continuation
        else if !isTail c then fault 2 .continuation
        else return Char.ofNat ((a - 0xe0) * 4096 + (b - 0x80) * 64 + (c - 0x80)) ::
          (← decodeUtf8From (position + 3) rest)
    else match rest with
      | [] => fault 1 .truncated
      | [b] => if isSecond a b then fault 2 .truncated else fault 1 .continuation
      | [b, c] =>
        if !isSecond a b then fault 1 .continuation
        else if isTail c then fault 3 .truncated else fault 2 .continuation
      | b :: c :: d :: rest =>
        if !isSecond a b then fault 1 .continuation
        else if !isTail c then fault 2 .continuation
        else if !isTail d then fault 3 .continuation
        else
          let code := (a - 0xf0) * 262144 + (b - 0x80) * 4096 + (c - 0x80) * 64 + (d - 0x80)
          return Char.ofNat code :: (← decodeUtf8From (position + 4) rest)

/-- The characters of octets, with a replacement character for those that do not decode. -/
def decodeLossyFrom : (fuel : Nat) → List Nat → List Char
  | 0, _ => []
  | fuel + 1, octets => match decodeUtf8From 0 octets with
    | .ok chars => chars
    | .error fault =>
      (decodeUtf8From 0 (octets.take fault.first)).toOption.getD [] ++
        '\ufffd' :: decodeLossyFrom fuel (octets.drop fault.past)

def decodeLossy (octets : List Nat) : List Char := decodeLossyFrom (octets.length + 1) octets

def decodeUtf8 (octets : List Nat) : Except Utf8Fault String :=
  (decodeUtf8From 0 octets).map String.ofList

end Prism.Text
