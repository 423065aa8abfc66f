/-
# UTF-16

A character below `U+10000` is one code unit, any other a surrogate pair: the
high surrogate carries the upper ten bits of its offset from `U+10000`, the low
surrogate the lower ten.  `decode` reads units back and refuses a surrogate that
stands alone.
-/

namespace UsbGadget
namespace Utf16

/-- The code units of a character. -/
def units (c : Char) : List UInt16 :=
  if c.toNat < 0x10000 then [UInt16.ofNat c.toNat]
  else
    [UInt16.ofNat (0xd800 + (c.toNat - 0x10000) / 0x400),
      UInt16.ofNat (0xdc00 + (c.toNat - 0x10000) % 0x400)]

/-- The code units of a list of characters. -/
def encode (cs : List Char) : List UInt16 := cs.flatMap units

/-- A unit that opens a surrogate pair. -/
def isHigh (u : UInt16) : Bool := 0xd800 ≤ u && u ≤ 0xdbff

/-- A unit that closes a surrogate pair. -/
def isLow (u : UInt16) : Bool := 0xdc00 ≤ u && u ≤ 0xdfff

/-- The character of a surrogate pair. -/
def pair (high low : UInt16) : Char :=
  Char.ofNat (0x10000 + (high.toNat - 0xd800) * 0x400 + (low.toNat - 0xdc00))

/-- The characters of a list of units, or nothing when a surrogate is unpaired. -/
def decode : List UInt16 → Option (List Char)
  | [] => some []
  | [u] => if isHigh u || isLow u then none else some [Char.ofNat u.toNat]
  | u :: v :: rest =>
    if isHigh u then
      if isLow v then (decode rest).map (pair u v :: ·) else none
    else if isLow u then none
    else (decode (v :: rest)).map (Char.ofNat u.toNat :: ·)

end Utf16
end UsbGadget
