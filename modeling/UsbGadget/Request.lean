/-
# Control requests

A SETUP packet is eight bytes, followed by the data stage of an OUT request:

| bytes | field | |
| --- | --- | --- |
| 0 | `requestType` | direction in bit 7, kind in bits 5 and 6, recipient in bits 0 to 4 |
| 1 | `code` | |
| 2–3 | `value` | for a descriptor: type in the high byte, index in the low byte |
| 4–5 | `index` | |
| 6–7 | `length` | the most that the host takes or sends |

Every packet of eight bytes and more is a request, with `reserved` for a kind or
a recipient that has no meaning; `ofBytes` and `header` are inverse to each other.
-/

import UsbGadget.UsbError

namespace UsbGadget

/-- A decoded control request. -/
structure Request where
  requestType : UInt8
  code : UInt8
  value : UInt16 := 0
  index : UInt16 := 0
  length : UInt16 := 0
  data : Bytes := []
  deriving DecidableEq, Repr

/-- Which way the data stage of a request goes. -/
inductive Direction where
  | hostToDevice
  | deviceToHost
  deriving DecidableEq, Repr

/-- Who defines a request. -/
inductive RequestKind where
  | standard
  | classSpecific
  | vendorSpecific
  | reserved
  deriving DecidableEq, Repr

/-- Whom a request addresses. -/
inductive Recipient where
  | device
  | interface
  | endpoint
  | other
  | reserved (code : UInt8)
  deriving DecidableEq, Repr

/-- The word for a direction in a description. -/
def Direction.name : Direction → String
  | hostToDevice => "out"
  | deviceToHost => "in"

/-- The word for a kind in a description. -/
def RequestKind.name : RequestKind → String
  | standard => "standard"
  | classSpecific => "class"
  | vendorSpecific => "vendor"
  | reserved => "unknown"

/-- The word for a recipient in a description. -/
def Recipient.name : Recipient → String
  | device => "device"
  | interface => "interface"
  | endpoint => "endpoint"
  | other => "other"
  | reserved _ => "unknown"

namespace Request

/-- Reads a SETUP packet; what follows its eight bytes is the data stage. -/
def ofBytes : Bytes → Except UsbError Request
  | t :: c :: v₀ :: v₁ :: i₀ :: i₁ :: l₀ :: l₁ :: data =>
    .ok ⟨t, c, Bytes.word v₀ v₁, Bytes.word i₀ i₁, Bytes.word l₀ l₁, data⟩
  | raw => .error (.shortSetupPacket raw.length)

/-- The eight bytes of the packet, without the data stage. -/
def header (r : Request) : Bytes :=
  [r.requestType, r.code] ++ Bytes.ofWord r.value ++ Bytes.ofWord r.index ++ Bytes.ofWord r.length

/-- Which way the data stage goes. -/
def direction (r : Request) : Direction :=
  if r.requestType &&& 0x80 = 0 then .hostToDevice else .deviceToHost

/-- Who defines the request. -/
def kind (r : Request) : RequestKind :=
  let bits := (r.requestType >>> 5) &&& 0x03
  if bits = 0 then .standard
  else if bits = 1 then .classSpecific
  else if bits = 2 then .vendorSpecific
  else .reserved

/-- Whom the request addresses. -/
def recipient (r : Request) : Recipient :=
  let bits := r.requestType &&& 0x1f
  if bits = 0 then .device
  else if bits = 1 then .interface
  else if bits = 2 then .endpoint
  else if bits = 3 then .other
  else .reserved bits

/-- The position of the interface that an interface request addresses: the low byte of the index. -/
def interfacePosition (r : Request) : Nat := (r.index &&& 0xff).toNat

/-- The number of the endpoint that an endpoint request addresses, without the direction bit. -/
def endpointNumber (r : Request) : UInt8 := (r.index &&& 0x0f).toUInt8

/-- The index as the recipient reads it: an endpoint by its number, all others as it is. -/
def recipientIndex (r : Request) : UInt16 :=
  match r.recipient with
  | .endpoint => r.index &&& 0x0f
  | _ => r.index

/-- The type of the descriptor that is asked for. -/
def descriptorType (r : Request) : UInt8 := (r.value >>> 8).toUInt8

/-- The index of the descriptor that is asked for. -/
def descriptorIndex (r : Request) : UInt8 := r.value.toUInt8

/-- A one-line description. -/
def describe (r : Request) : String :=
  "dir=" ++ r.direction.name ++ ", type=" ++ r.kind.name ++ ", rec=" ++ r.recipient.name ++
    ", req=" ++ Hex.literal 2 r.code.toNat ++ ", val=" ++ Hex.literal 4 r.value.toNat ++
    ", idx=" ++ Hex.literal 4 r.index.toNat ++ ", len=" ++ toString r.length.toNat

end Request
end UsbGadget
