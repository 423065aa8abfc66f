/-
# Class-specific descriptors

A payload that only the class can read, behind a length and a type.  One that
belongs to an interface differs from one that belongs to an endpoint in its type
and its stage alone.  A payload longer than 253 bytes is cut, so that the length
fits its byte.
-/

import UsbGadget.Code
import UsbGadget.Descriptor.Layout

namespace UsbGadget

/-- A class-specific descriptor. -/
structure ClassSpecific where
  payload : Bytes
  fits : payload.length ≤ 253

namespace ClassSpecific

/-- The longest payload whose descriptor has a length below 256. -/
def maxPayload : Nat := 253

/-- The descriptor of a payload, which is cut to `maxPayload` bytes. -/
def ofPayload (payload : Bytes) : ClassSpecific :=
  ⟨payload.take maxPayload, by
    rw [List.length_take]
    exact Nat.min_le_left _ _⟩

/-- The bytes of the descriptor, with the type that its owner gives it. -/
def bytes (d : ClassSpecific) (type : UInt8) : Bytes :=
  [Bytes.countByte (d.payload.length + 2), type] ++ d.payload

/-- The plan of a descriptor that belongs to an interface. -/
def interfaceLayout (d : ClassSpecific) : Layout :=
  .leaf .classSpecificInterfaceDescriptor (d.bytes DescriptorType.classSpecificInterface)

/-- The plan of a descriptor that belongs to an endpoint. -/
def endpointLayout (d : ClassSpecific) : Layout :=
  .leaf .classSpecificEndpointDescriptor (d.bytes DescriptorType.classSpecificEndpoint)

end ClassSpecific
end UsbGadget
