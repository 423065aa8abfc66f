/-
# Host traffic

What the host does to a device: a SETUP packet with its data stage, data on an
OUT endpoint, or room for more data on an IN endpoint.
-/

import UsbGadget.Bytes

namespace UsbGadget

/-- One thing that the host does. -/
inductive HostEvent where
  | setup (packet : Bytes)
  | data (endpoint : UInt8) (data : Bytes)
  | bufferAvailable (endpoint : UInt8)
  deriving DecidableEq, Repr

end UsbGadget
