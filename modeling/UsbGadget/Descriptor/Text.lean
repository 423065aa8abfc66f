/-
# String descriptors

| bytes | field |
| --- | --- |
| 0 | length of the descriptor |
| 1 | type `03` |
| 2– | UTF-16 code units, low byte first |

At most 126 code units fit behind a one-byte length.  The string descriptor with
index 0 lists the languages instead; there is one, United States English.
-/

import UsbGadget.Bytes
import UsbGadget.Code
import UsbGadget.Text.Utf16

namespace UsbGadget
namespace StringDescriptor

/-- The most code units that a string descriptor holds. -/
def maxUnits : Nat := 126

/-- Code units as bytes. -/
def bytesOfUnits (units : List UInt16) : Bytes := units.flatMap Bytes.ofWord

/-- The code units that bytes hold; a byte left over at the end is none. -/
def unitsOfBytes : Bytes → List UInt16
  | low :: high :: rest => Bytes.word low high :: unitsOfBytes rest
  | _ => []

/-- The units that were written as bytes are read back. -/
theorem unitsOfBytes_bytesOfUnits (units : List UInt16) :
    unitsOfBytes (bytesOfUnits units) = units := by
  induction units with
  | nil => rfl
  | cons u us ih =>
    change Bytes.word u.toUInt8 (u >>> 8).toUInt8 :: unitsOfBytes (bytesOfUnits us) = u :: us
    rw [Bytes.word_ofWord, ih]

/-- The string descriptor of a text. -/
def ofText (s : String) : Bytes :=
  let body := bytesOfUnits ((Utf16.encode s.toList).take maxUnits)
  [Bytes.countByte (2 + body.length), DescriptorType.string] ++ body

/-- The code of United States English. -/
def english : UInt16 := 0x0409

/-- The string descriptor that names one language. -/
def ofLanguage (language : UInt16) : Bytes :=
  [4, DescriptorType.string] ++ Bytes.ofWord language

end StringDescriptor
end UsbGadget
