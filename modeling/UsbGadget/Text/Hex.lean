/-
# Hexadecimal text

Numbers in messages are written in lower-case hexadecimal after `0x`, padded with
zeros to a least number of digits.
-/

namespace UsbGadget
namespace Hex

/-- Hexadecimal digits of `n`, at least `least` of them. -/
def digits (least n : Nat) : String :=
  let ds := Nat.toDigits 16 n
  String.ofList (List.replicate (least - ds.length) '0' ++ ds)

/-- `0x` and the hexadecimal digits of `n`, at least `least` of them. -/
def literal (least n : Nat) : String := "0x" ++ digits least n

end Hex
end UsbGadget
