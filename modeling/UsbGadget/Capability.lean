/-
# Device capabilities

| bytes | field |
| --- | --- |
| 0 | length of the descriptor |
| 1 | type `10` |
| 2 | type of the capability |
| 3– | payload, at most 252 bytes |

The payload of a billboard:

| bytes | field |
| --- | --- |
| 0 | string index of the address with more information |
| 1 | number of modes |
| 2 | preferred mode |
| 3–4 | power of the plug |
| 5–36 | two bits per mode: what became of entering it |
| 37–38 | version |
| 39 | additional failure information |
| 40 | 0 |
| 41– | per mode: standard or vendor id, mode, string index |

Only 52 modes fit.
-/

import UsbGadget.Code
import UsbGadget.Descriptor.Layout

namespace UsbGadget

/-- What became of entering an alternate mode. -/
inductive ModeState where
  | unspecified
  | notAttempted
  | unsuccessful
  | configured
  deriving DecidableEq, Repr

/-- The two bits of a mode's state. -/
def ModeState.bits : ModeState → UInt8
  | unspecified => 0
  | notAttempted => 1
  | unsuccessful => 2
  | configured => 3

/-- The state that the lowest two bits give. -/
def ModeState.ofBits (b : UInt8) : ModeState :=
  let bits := b &&& 0x03
  if bits = 0 then unspecified
  else if bits = 1 then notAttempted
  else if bits = 2 then unsuccessful
  else configured

/-- An alternate mode of a billboard. -/
structure AlternateMode where
  svid : UInt16
  mode : UInt8
  stringIndex : UInt8
  state : ModeState
  deriving DecidableEq, Repr

/-- What a billboard advertises. -/
structure Billboard where
  infoUrl : UInt8 := 0
  preferredMode : UInt8 := 0
  vconnPower : UInt16 := 0
  version : UInt16 := 0x0110
  failureInfo : UInt8 := 0
  modes : List AlternateMode := []
  deriving DecidableEq, Repr

namespace Billboard

/-- The most modes that fit a capability descriptor. -/
def maxModes : Nat := 52

/-- The modes that are advertised. -/
def advertised (b : Billboard) : List AlternateMode := b.modes.take maxModes

/-- The two bits of the mode at a position, or none. -/
def stateBits (modes : List AlternateMode) (i : Nat) : UInt8 :=
  (modes[i]?).elim 0 fun m => m.state.bits

/-- The byte at position `k` of the field of states: the modes `4 k` to `4 k + 3`. -/
def configuredByte (modes : List AlternateMode) (k : Nat) : UInt8 :=
  stateBits modes (4 * k) ||| (stateBits modes (4 * k + 1) <<< 2) |||
    (stateBits modes (4 * k + 2) <<< 4) ||| (stateBits modes (4 * k + 3) <<< 6)

/-- The 32 bytes with the states of the modes. -/
def configuredField (modes : List AlternateMode) : Bytes :=
  (List.range 32).map (configuredByte modes)

/-- The bytes of one mode. -/
def modeBytes (m : AlternateMode) : Bytes := Bytes.ofWord m.svid ++ [m.mode, m.stringIndex]

/-- The payload of the capability. -/
def payload (b : Billboard) : Bytes :=
  [b.infoUrl, Bytes.countByte b.advertised.length, b.preferredMode] ++ Bytes.ofWord b.vconnPower ++
    configuredField b.advertised ++ Bytes.ofWord b.version ++ [b.failureInfo, 0] ++
    b.advertised.flatMap modeBytes

end Billboard

/-- A capability of a device.  A raw one has the payload that it is given, as far as there is room
for it; a custom one is of the caller's own making and may have any payload. -/
inductive Capability where
  | usb20Extension (attributes : UInt32)
  | containerId (uuid : Vector UInt8 16)
  | billboard (b : Billboard)
  | raw (type : UInt8) (payload : Bytes)
  | custom (type : UInt8) (payload : Bytes)
  deriving DecidableEq, Repr

namespace Capability

/-- The longest payload whose descriptor has a length below 256. -/
def maxPayload : Nat := 252

/-- The attribute of the USB 2.0 extension that stands for link power management. -/
def linkPowerManagement : UInt32 := 2

/-- The type of a capability. -/
def type : Capability → UInt8
  | usb20Extension _ => CapabilityType.usb20Extension
  | containerId _ => CapabilityType.containerId
  | billboard _ => CapabilityType.billboard
  | raw type _ => type
  | custom type _ => type

/-- The fields behind the type. -/
def payload : Capability → Bytes
  | usb20Extension attributes => Bytes.ofLong attributes
  | containerId uuid => 0 :: uuid.toList
  | billboard b => b.payload
  | raw _ payload => payload.take maxPayload
  | custom _ payload => payload

/-- The bytes of a capability descriptor; a long payload is cut. -/
def bytes (c : Capability) : Bytes :=
  let body := c.payload.take maxPayload
  [Bytes.countByte (body.length + 3), DescriptorType.deviceCapability, c.type] ++ body

/-- The plan of a capability descriptor. -/
def layout (c : Capability) : Layout := .leaf .deviceCapabilityDescriptor c.bytes

end Capability
end UsbGadget
