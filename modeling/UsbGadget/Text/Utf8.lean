/-
# Lossy UTF-8

Text from bytes that need not be UTF-8.  A well-formed sequence gives its
character.  Where a sequence breaks off, the longest part of it that could still
have been continued gives one replacement character `U+FFFD`, and so does a byte
that starts nothing.

| lead | continuation bytes | range of the first |
| --- | ---: | --- |
| `c2`–`df` | 1 | `80`–`bf` |
| `e0` | 2 | `a0`–`bf` |
| `e1`–`ec`, `ee`, `ef` | 2 | `80`–`bf` |
| `ed` | 2 | `80`–`9f` |
| `f0` | 3 | `90`–`bf` |
| `f1`–`f3` | 3 | `80`–`bf` |
| `f4` | 3 | `80`–`8f` |
-/

import UsbGadget.Bytes

namespace UsbGadget
namespace Utf8

/-- What a lead byte announces: how many continuation bytes follow, the range of the first of
them, and the bits of the character that the lead itself carries. -/
structure Lead where
  tail : Nat
  low : UInt8
  high : UInt8
  bits : Nat

/-- The announcement of a lead byte, if it is one. -/
def lead? (b : UInt8) : Option Lead :=
  if b < 0xc2 then none
  else if b ≤ 0xdf then some ⟨1, 0x80, 0xbf, b.toNat - 0xc0⟩
  else if b = 0xe0 then some ⟨2, 0xa0, 0xbf, 0⟩
  else if b = 0xed then some ⟨2, 0x80, 0x9f, 0xd⟩
  else if b ≤ 0xef then some ⟨2, 0x80, 0xbf, b.toNat - 0xe0⟩
  else if b = 0xf0 then some ⟨3, 0x90, 0xbf, 0⟩
  else if b ≤ 0xf3 then some ⟨3, 0x80, 0xbf, b.toNat - 0xf0⟩
  else if b = 0xf4 then some ⟨3, 0x80, 0x8f, 4⟩
  else none

/-- The continuation bytes, at most `n`, at the front of the bytes; the first lies between `low`
and `high`. -/
def continuation (low high : UInt8) : Nat → Bytes → Bytes
  | n + 1, b :: rest =>
    if low ≤ b && b ≤ high then b :: continuation 0x80 0xbf n rest else []
  | _, _ => []

/-- The code point with the given leading bits and continuation bytes. -/
def codePoint (bits : Nat) (tail : Bytes) : Nat :=
  tail.foldl (fun v b => v * 64 + (b.toNat - 0x80)) bits

/-- The characters of the bytes, with a replacement character for what is not UTF-8. -/
def decodeLossy : Bytes → List Char
  | [] => []
  | b :: rest =>
    if b < 0x80 then Char.ofNat b.toNat :: decodeLossy rest
    else
      match lead? b with
      | none => '\ufffd' :: decodeLossy rest
      | some l =>
        let tail := continuation l.low l.high l.tail rest
        (if tail.length = l.tail then Char.ofNat (codePoint l.bits tail) else '\ufffd') ::
          decodeLossy (rest.drop tail.length)
termination_by bs => bs.length
decreasing_by
  · simp
  · simp
  · simp only [List.length_drop, List.length_cons]; omega

/-- The text of the bytes, with a replacement character for what is not UTF-8. -/
def lossy (bs : Bytes) : String := String.ofList (decodeLossy bs)

end Utf8
end UsbGadget
