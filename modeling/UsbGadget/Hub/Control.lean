/-
# Class requests of a hub

| code | request | to a port | to the hub |
| ---: | --- | --- | --- |
| `00` | get status | status and change of the port | four zero bytes |
| `01` | clear feature | acknowledged | acknowledged, without effect |
| `03` | set feature | acknowledged | acknowledged, without effect |
| `06` | get descriptor | the hub descriptor | the hub descriptor |

Ports are addressed as the other recipient, with numbers from 1 in the low byte
of the index; a number that no port has is answered with a stall.
-/

import UsbGadget.ClassHandler
import UsbGadget.Code
import UsbGadget.Hub.Port

namespace UsbGadget
namespace Hub

/-- The number of ports. -/
def portCount : Nat := 4

/-- The ports of a hub. -/
structure State where
  ports : Vector Port portCount := .replicate portCount {}
  deriving DecidableEq, Repr

/-- The position of the port with the number in the low byte of an index. -/
def portAt? (index : UInt16) : Option (Fin portCount) :=
  let number := (index &&& 0xff).toNat
  if h : 1 ≤ number ∧ number ≤ portCount then some ⟨number - 1, by omega⟩ else none

/-- The descriptor of the hub: four ports, power switched together, 100 mA for its own use. -/
def descriptor : Bytes := [9, DescriptorType.hub, 4, 0x00, 0xe0, 0x32, 0x64, 0x00, 0xff]

/-- The plan of the hub descriptor. -/
def descriptorLayout : Layout := .leaf .hubDescriptor descriptor

/-- Replies with the state of a port, or of the hub, of which there is nothing to report. -/
def getStatus : Handler State := fun _ r link s =>
  if r.recipient = .other then
    match portAt? r.index with
    | none => link.stall s
    | some i =>
      link.reply r (Bytes.ofWord s.ports[i].status ++ Bytes.ofWord s.ports[i].change) s
  else link.reply r [0, 0, 0, 0] s

/-- Replies with the hub descriptor. -/
def getDescriptor : Handler State := fun _ r link s =>
  let (bytes, link) := link.emit descriptorLayout
  (link.signal "hub descriptor requested").reply r bytes s

/-- Sets or clears a feature of a port, or of the hub, which keeps none. -/
def changeFeature (on : Bool) : Handler State := fun _ r link s =>
  if r.recipient = .other then
    match portAt? r.index with
    | none => link.stall s
    | some i => link.acknowledge ⟨s.ports.set i (s.ports[i].applyFeature r.value on)⟩
  else link.acknowledge s

/-- The requests of a hub. -/
def requests : RequestTable State where
  entries := .ofList
    [(RequestCode.getStatus, getStatus), (RequestCode.getDescriptor, getDescriptor),
      (RequestCode.setFeature, changeFeature true), (RequestCode.clearFeature, changeFeature false)]
  default := Handler.serviced

/-- The class handler of a hub. -/
def handler (s : State) : ClassHandler State := { name := "hub", requests := requests, state := s }

end Hub
end UsbGadget
