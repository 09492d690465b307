/-!
# Base 64

Reading bytes that are written as characters of six bits each. Characters outside the alphabet are
passed over; a complete padding ends the text.
-/

namespace NodeGraph

/-- The six bits of a character of the alphabet. -/
def base64Value? (c : Char) : Option Nat :=
  if 'A' ≤ c ∧ c ≤ 'Z' then some (c.toNat - 65)
  else if 'a' ≤ c ∧ c ≤ 'z' then some (c.toNat - 71)
  else if '0' ≤ c ∧ c ≤ '9' then some (c.toNat + 4)
  else if c = '+' then some 62
  else if c = '/' then some 63
  else none

/-- `place` is the number of characters of the current group of four, `held` the bits left over
from them, and `pads` the padding characters since the last one. `none` for an incomplete group. -/
def decodeBase64From (place held pads : Nat) : List Char → Option (List UInt8)
  | [] => if place = 0 then some [] else none
  | c :: cs =>
    if c = '=' then
      if place < 2 then decodeBase64From place held pads cs
      else if 4 ≤ place + pads + 1 then some []
      else decodeBase64From place held (pads + 1) cs
    else
      match base64Value? c with
      | none => decodeBase64From place held pads cs
      | some v =>
        match place with
        | 0 => decodeBase64From 1 v 0 cs
        | 1 => (decodeBase64From 2 (v % 16) 0 cs).map ((held * 4 + v / 16).toUInt8 :: ·)
        | 2 => (decodeBase64From 3 (v % 4) 0 cs).map ((held * 16 + v / 4).toUInt8 :: ·)
        | _ => (decodeBase64From 0 0 0 cs).map ((held * 64 + v).toUInt8 :: ·)

def decodeBase64? (cs : List Char) : Option (List UInt8) := decodeBase64From 0 0 0 cs

end NodeGraph
