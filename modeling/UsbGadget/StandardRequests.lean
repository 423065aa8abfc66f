/-
# Standard requests to the device

| code | request | answer |
| ---: | --- | --- |
| `00` | get status | self-powered in bit 0, remote wakeup in bit 1 |
| `01`, `03` | clear, set feature | acknowledged |
| `05` | set address | acknowledged |
| `06` | get descriptor | the descriptor, or a stall |
| `07` | set descriptor | a stall |
| `08` | get configuration | the value of the active configuration, or 0 |
| `09` | set configuration | acknowledged, or a stall |
| `0a` | get interface | the alternate setting, or a stall |
| `0b` | set interface | no data |
| `0c` | synch frame | a stall |
| `33` | get accessory protocol | version 0: none |

All others are answered with no data.
-/

import UsbGadget.Model

namespace UsbGadget
namespace StandardRequests

/-- The configuration whose attributes the status reports: the active one, or else the first. -/
def statusConfiguration? (m : Model) : Option Configuration :=
  m.activeConfiguration?.or m.configurations.head?

/-- The status of the device. -/
def status (m : Model) : UInt8 :=
  (if ((statusConfiguration? m).getD {}).isSelfPowered then 1 else 0) |||
    (if m.remoteWakeup then 2 else 0)

/-- Replies with the status. -/
def getStatus : Handler Model := fun _ r link m => link.reply r [status m, 0] m

/-- Allows or forbids remote wakeup, if that is the feature that is meant. -/
def changeFeature (on : Bool) : Handler Model := fun _ r link m =>
  link.acknowledge
    (if r.value = Feature.deviceRemoteWakeup then { m with remoteWakeup := on } else m)

/-- Takes the low seven bits of the value as the address. -/
def setAddress : Handler Model := fun _ r link m =>
  link.acknowledge { m with address := (r.value &&& 0x7f).toUInt8 }

/-- Replies with the descriptor that is asked for. -/
def getDescriptor : Handler Model := fun _ r link m =>
  match m.layout? r.descriptorType r.descriptorIndex with
  | none => link.stall m
  | some layout =>
    let (bytes, link) := link.emit layout
    link.reply r bytes m

/-- Replies with the value of the active configuration. -/
def getConfiguration : Handler Model := fun _ r link m => link.reply r [m.activeValue] m

/-- Selects the configuration whose value is the low byte of the request's value. -/
def setConfiguration : Handler Model := fun _ r link m =>
  match m.selectConfiguration? r.value.toUInt8 with
  | some m => link.acknowledge m
  | none => link.stall m

/-- Replies with the alternate setting of the interface at the position in the index. -/
def getInterface : Handler Model := fun _ r link m =>
  match m.interface? r.index.toNat with
  | some i => link.reply r [i.state.alternate] m
  | none => link.stall m

/-- Replies that the device is no accessory. -/
def getAccessoryProtocol : Handler Model := fun _ r link m => link.reply r [0, 0] m

/-- The standard requests of a device. -/
def requests : RequestTable Model where
  entries := .ofList
    [(RequestCode.getStatus, getStatus), (RequestCode.clearFeature, changeFeature false),
      (RequestCode.setFeature, changeFeature true), (RequestCode.setAddress, setAddress),
      (RequestCode.getDescriptor, getDescriptor), (RequestCode.setDescriptor, Handler.stall),
      (RequestCode.getConfiguration, getConfiguration),
      (RequestCode.setConfiguration, setConfiguration), (RequestCode.getInterface, getInterface),
      (RequestCode.setInterface, Handler.replyEmpty), (RequestCode.synchFrame, Handler.stall),
      (RequestCode.getAccessoryProtocol, getAccessoryProtocol)]
  default := Handler.replyEmpty

end StandardRequests
end UsbGadget
