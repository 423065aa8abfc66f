/-
# Failures of a session

What a caller has to act on.  A request that a device does not support is not
among them: it is answered with a stall.
-/

import UsbGadget.Text.Hex
import UsbGadget.Transport

namespace UsbGadget

/-- Why a call into a device failed, or why a device could not be made. -/
inductive UsbError where
  | shortSetupPacket (length : Nat)
  | transport (cause : TransportError)
  | shortDataStage (request : UInt8) (expected actual : Nat)
  | handler (name : String) (request : UInt8) (reason : String)
  | noConfigurations
  | tooManyConfigurations (count : Nat)
  deriving DecidableEq, Repr

namespace UsbError

/-- The wording of a failure. -/
def message : UsbError → String
  | shortSetupPacket n => "setup packet is " ++ toString n ++ " bytes, expected at least 8"
  | transport cause => "transport failure: " ++ cause.message
  | shortDataStage request expected actual =>
    "request " ++ Hex.literal 2 request.toNat ++ " expected " ++ toString expected ++
      " data bytes, got " ++ toString actual
  | handler name request reason =>
    name ++ " failed to handle request " ++ Hex.literal 2 request.toNat ++ ": " ++ reason
  | noConfigurations => "device has no configurations"
  | tooManyConfigurations n =>
    "device has " ++ toString n ++ " configurations, at most 255 can be numbered"

/-- The wording of a failure and of what caused it, the outermost first. -/
def chain : UsbError → List String
  | transport cause => [message (transport cause), cause.message]
  | e => [message e]

end UsbError
end UsbGadget
