/-
# Endpoints

| bytes | field | |
| --- | --- | --- |
| 0 | 7 | |
| 1 | type `05` | |
| 2 | address | number in bits 0 to 3, direction in bit 7 |
| 3 | attributes | transfer type in bits 0 and 1, synchronisation in 2 and 3, usage in 4 and 5 |
| 4–5 | largest packet | 512 at high speed |
| 6 | interval | |

The class-specific descriptors follow, in the same stage.  Standard requests
read, set and clear the halt of the endpoint; all others are answered with no
data.
-/

import UsbGadget.Code
import UsbGadget.Descriptor.ClassSpecific
import UsbGadget.FunctionHandler
import UsbGadget.TrafficHandler

namespace UsbGadget

/-- How an endpoint transfers data. -/
inductive TransferType where
  | control
  | isochronous
  | bulk
  | interrupt
  deriving DecidableEq, Repr

/-- The two bits of a transfer type. -/
def TransferType.bits : TransferType → UInt8
  | control => 0
  | isochronous => 1
  | bulk => 2
  | interrupt => 3

/-- The word for a transfer type in a description. -/
def TransferType.describe : TransferType → String
  | control => "Control"
  | isochronous => "Isochronous"
  | bulk => "Bulk"
  | interrupt => "Interrupt"

/-- How an isochronous endpoint keeps time. -/
inductive Synchronisation where
  | unsynchronised
  | asynchronous
  | adaptive
  | synchronous
  deriving DecidableEq, Repr

/-- The two bits of a synchronisation. -/
def Synchronisation.bits : Synchronisation → UInt8
  | unsynchronised => 0
  | asynchronous => 1
  | adaptive => 2
  | synchronous => 3

/-- What an isochronous endpoint is for. -/
inductive Usage where
  | data
  | feedback
  | implicitFeedback
  deriving DecidableEq, Repr

/-- The two bits of a usage. -/
def Usage.bits : Usage → UInt8
  | data => 0
  | feedback => 1
  | implicitFeedback => 2

/-- The direction bit of an address. -/
def Direction.addressBit : Direction → UInt8
  | hostToDevice => 0x00
  | deviceToHost => 0x80

/-- What standard requests change on an endpoint. -/
structure Endpoint.Status where
  halted : Bool := false
  deriving DecidableEq, Repr

namespace Endpoint.Status

/-- Replies with the halt in bit 0. -/
def getStatus : Handler Status := fun _ r link s =>
  link.reply r [if s.halted then 1 else 0, 0] s

/-- Sets or clears the halt, if that is the feature that is meant, and replies with no data. -/
def changeFeature (on : Bool) : Handler Status := fun _ r link s =>
  link.replyEmpty (if r.value = Feature.endpointHalt then { s with halted := on } else s)

/-- The standard requests of an endpoint. -/
def requests : RequestTable Status where
  entries := .ofList
    [(RequestCode.getStatus, getStatus), (RequestCode.clearFeature, changeFeature false),
      (RequestCode.setFeature, changeFeature true)]
  default := Handler.replyEmpty

end Endpoint.Status

/-- An endpoint of an interface. -/
structure Endpoint where
  number : UInt8
  number_lt : number < 16 := by decide
  direction : Direction
  transferType : TransferType
  synchronisation : Synchronisation := .unsynchronised
  usage : Usage := .data
  maxPacketSize : UInt16
  interval : UInt8 := 0
  classSpecific : List ClassSpecific := []
  traffic : Option TrafficHandler := none
  functions : Functions := {}
  status : Endpoint.Status := {}
  requests : RequestTable Endpoint.Status := Endpoint.Status.requests

namespace Endpoint

/-- An endpoint number has four bits. -/
theorem masked_lt (n : UInt8) : n &&& 0x0f < 16 := by
  have h : (n &&& 0x0f).toNat ≤ 15 := by
    rw [UInt8.toNat_and]; exact Nat.and_le_right
  exact UInt8.lt_iff_toNat_lt.2 (Nat.lt_succ_of_le h)

/-- An endpoint with the number in the lowest four bits. -/
def ofNumber (n : UInt8) (direction : Direction) (transferType : TransferType)
    (maxPacketSize : UInt16) : Endpoint where
  number := n &&& 0x0f
  number_lt := masked_lt n
  direction := direction
  transferType := transferType
  maxPacketSize := maxPacketSize

/-- The number and the direction in one byte. -/
def address (ep : Endpoint) : UInt8 := ep.number ||| ep.direction.addressBit

/-- Transfer type, synchronisation and usage in one byte. -/
def attributes (ep : Endpoint) : UInt8 :=
  ep.transferType.bits ||| (ep.synchronisation.bits <<< 2) ||| (ep.usage.bits <<< 4)

/-- The largest packet that every endpoint has at high speed. -/
def highSpeedPacketSize : UInt16 := 512

/-- The largest packet at a speed. -/
def packetSize (ep : Endpoint) : Speed → UInt16
  | .high => highSpeedPacketSize
  | .full => ep.maxPacketSize

/-- The seven bytes of the descriptor itself. -/
def header (ep : Endpoint) (speed : Speed) : Bytes :=
  [7, DescriptorType.endpoint, ep.address, ep.attributes] ++ Bytes.ofWord (ep.packetSize speed) ++
    [ep.interval]

/-- The plan of the descriptor and the class-specific ones behind it. -/
def layout (ep : Endpoint) (speed : Speed) : Layout :=
  .node .endpointDescriptor (ep.header speed ++ ·) (ep.classSpecific.map (·.endpointLayout))

/-- Serves a standard request. -/
def serve (speed : Speed) (r : Request) (link : Link) (ep : Endpoint) : Answer Endpoint :=
  (ep.requests.dispatch speed r link ep.status).map fun s => { ep with status := s }

/-- Lets the endpoint's handler of a kind serve a request, if there is one. -/
def serveFunction? (kind : HandlerKind) (speed : Speed) (r : Request) (link : Link)
    (ep : Endpoint) : Option (Answer Endpoint) :=
  (ep.functions.serve? kind speed r link).map (Answer.map fun f => { ep with functions := f })

/-- Lets the endpoint's traffic handler act, if there is one. -/
def withTraffic (ep : Endpoint) (link : Link) (act : TrafficHandler → Answer TrafficHandler) :
    Answer Endpoint :=
  match ep.traffic with
  | none => ⟨ep, link, none⟩
  | some t => (act t).map fun t => { ep with traffic := some t }

/-- Takes in data from the host. -/
def receive (speed : Speed) (data : Bytes) (link : Link) (ep : Endpoint) : Answer Endpoint :=
  ep.withTraffic link (TrafficHandler.receive speed data link)

/-- Learns that the host has room for data. -/
def offer (speed : Speed) (link : Link) (ep : Endpoint) : Answer Endpoint :=
  ep.withTraffic link (TrafficHandler.offer speed link)

/-- A one-line description. -/
def describe (ep : Endpoint) : String :=
  Describe.openRecord "Endpoint"
    [("address", Hex.literal 2 ep.address.toNat), ("transfer_type", ep.transferType.describe),
      ("max_packet_size", toString ep.maxPacketSize.toNat),
      ("interval", toString ep.interval.toNat),
      ("cs_descriptors", toString ep.classSpecific.length),
      ("has_handler", Describe.bool ep.traffic.isSome)]

end Endpoint
end UsbGadget
