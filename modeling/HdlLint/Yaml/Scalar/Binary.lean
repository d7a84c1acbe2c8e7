import HdlLint.Yaml.Cursor

/-!
# Bytes in documents

Bytes are written in base sixty-four, four characters for three bytes. Characters outside
the alphabet are passed over, and equals signs may end the text where a group is complete
but for them.
-/

namespace HdlLint.Yaml

/-- The value of a character of the alphabet. -/
def sixtyFourth? (c : Char) : Option Nat :=
  let n := c.toNat
  if 0x41 ≤ n && n ≤ 0x5A then some (n - 0x41)
  else if 0x61 ≤ n && n ≤ 0x7A then some (n - 0x61 + 26)
  else if 0x30 ≤ n && n ≤ 0x39 then some (n - 0x30 + 52)
  else if c = '+' then some 62
  else if c = '/' then some 63
  else none

/-- Decodes the rest of a text. Given are how many characters of a group have been read,
the bits left over from them, and how many equals signs stand before. -/
def decodeSixtyFour (place left pads : Nat) : List Char → Option (List UInt8)
  | [] => if place = 0 then some [] else none
  | c :: r =>
    if c = '=' then
      if 2 ≤ place then
        if 4 ≤ place + pads + 1 then some [] else decodeSixtyFour place left (pads + 1) r
      else decodeSixtyFour place left pads r
    else match sixtyFourth? c with
      | none => decodeSixtyFour place left pads r
      | some v =>
        match place with
        | 0 => decodeSixtyFour 1 v 0 r
        | 1 => (decodeSixtyFour 2 (v % 16) 0 r).map ((left * 4 + v / 16).toUInt8 :: ·)
        | 2 => (decodeSixtyFour 3 (v % 4) 0 r).map ((left * 16 + v / 4).toUInt8 :: ·)
        | _ => (decodeSixtyFour 0 0 0 r).map ((left * 64 + v).toUInt8 :: ·)

/-- The bytes that a scalar stands for. -/
def bytesOfText (s : String) : Except DocumentFault (List UInt8) :=
  if s.toList.any fun c => 0x80 ≤ c.toNat then .error .malformed
  else match decodeSixtyFour 0 0 0 s.toList with
    | some bytes => .ok bytes
    | none => .error .malformed

end HdlLint.Yaml
