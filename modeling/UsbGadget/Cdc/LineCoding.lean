/-
# Line coding

| bytes | field | |
| --- | --- | --- |
| 0–3 | `rate` | bits per second |
| 4 | `stopBits` | 0: one, 1: one and a half, 2: two |
| 5 | `parity` | 0: none, 1: odd, 2: even, 3: mark, 4: space |
| 6 | `dataBits` | |

`ofBytes?` reads the first seven bytes and `toBytes` writes them; `IsValid` is
what a device accepts.
-/

import UsbGadget.Bytes
import UsbGadget.Text.Describe

namespace UsbGadget
namespace Cdc

/-- The settings of a serial line. -/
structure LineCoding where
  rate : UInt32 := 115200
  stopBits : UInt8 := 0
  parity : UInt8 := 0
  dataBits : UInt8 := 8
  deriving DecidableEq, Repr

namespace LineCoding

/-- The number of bytes of a line coding. -/
def size : Nat := 7

/-- The bytes of a line coding. -/
def toBytes (c : LineCoding) : Bytes := Bytes.ofLong c.rate ++ [c.stopBits, c.parity, c.dataBits]

/-- Reads a line coding off the front of the bytes. -/
def ofBytes? : Bytes → Option LineCoding
  | r₀ :: r₁ :: r₂ :: r₃ :: stopBits :: parity :: dataBits :: _ =>
    some ⟨Bytes.long r₀ r₁ r₂ r₃, stopBits, parity, dataBits⟩
  | _ => none

/-- Whether stop bits and parity have a meaning. -/
def IsValid (c : LineCoding) : Prop := c.stopBits ≤ 2 ∧ c.parity ≤ 4

instance (c : LineCoding) : Decidable c.IsValid := inferInstanceAs (Decidable (_ ∧ _))

/-- A one-line description. -/
def describe (c : LineCoding) : String :=
  Describe.record "LineCoding"
    [("rate", toString c.rate.toNat), ("stop_bits", toString c.stopBits.toNat),
      ("parity", toString c.parity.toNat), ("data_bits", toString c.dataBits.toNat)]

end LineCoding
end Cdc
end UsbGadget
