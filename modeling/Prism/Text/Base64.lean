namespace Prism.Text.Base64

def sixBits? (c : Char) : Option Nat :=
  if c.isUpper then some (c.toNat - 65)
  else if c.isLower then some (c.toNat - 71)
  else if c.isDigit then some (c.toNat + 4)
  else if c = '+' then some 62
  else if c = '/' then some 63
  else none

/-- Decodes what is left. `count` characters of the current four are read, `bits` are those that are
not yet given out, and `pads` marks of the end stand in a row. -/
def decodeFrom (count bits pads : Nat) : List Char → Option (List Nat)
  | [] => if count = 0 then some [] else none
  | c :: rest =>
    if c = '=' then
      if 2 ≤ count && 4 ≤ count + pads + 1 then some []
      else decodeFrom count bits (if 2 ≤ count then pads + 1 else pads) rest
    else match sixBits? c with
      | none => decodeFrom count bits pads rest
      | some six => match count with
        | 0 => decodeFrom 1 six 0 rest
        | 1 => (decodeFrom 2 (six % 16) 0 rest).map ((bits * 4 + six / 16) :: ·)
        | 2 => (decodeFrom 3 (six % 4) 0 rest).map ((bits * 16 + six / 4) :: ·)
        | _ => (decodeFrom 0 0 0 rest).map ((bits * 64 + six) :: ·)

/-- The octets of a text, unless its end is missing. -/
def decode? (text : List Char) : Option (List Nat) := decodeFrom 0 0 0 text

end Prism.Text.Base64
