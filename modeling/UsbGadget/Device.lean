/-
# Devices

A device is a model, the table of its standard requests, and a link to host and
application.  Each step takes in one thing that happens and gives the device
afterwards, with a failure if there was one.

`Request.target` says where a request goes:

| kind | recipient | target |
| --- | --- | --- |
| standard | device | the device |
| standard | interface | the interface at the position in the low byte of the index |
| standard | endpoint | the endpoint with the number in the low four bits of the index |
| standard | other | the first interface, or nobody |
| class, vendor | any | the function's handler of that kind |

A request to nobody is answered with a stall.
-/

import UsbGadget.HostEvent
import UsbGadget.StandardRequests

namespace UsbGadget

/-- Where a request goes. -/
inductive Target where
  | device
  | interface (position : Nat)
  | endpoint (number : UInt8)
  | function (kind : HandlerKind)
  | nobody
  deriving DecidableEq, Repr

/-- Where a policy sends a standard request to the other recipient. -/
def OtherRecipientPolicy.target : OtherRecipientPolicy → Target
  | firstInterface => .interface 0
  | stall => .nobody

/-- Where a request goes under a policy. -/
def Request.target (r : Request) (policy : Policy) : Target :=
  match r.kind with
  | .standard =>
    match r.recipient with
    | .device => .device
    | .interface => .interface r.interfacePosition
    | .endpoint => .endpoint r.endpointNumber
    | .other => policy.otherRecipient.target
    | .reserved _ => .nobody
  | .classSpecific => .function .classSpecific
  | .vendorSpecific => .function .vendorSpecific
  | .reserved => .nobody

/-- A model with handlers that replace those of the standard requests. -/
structure Gadget where
  model : Model
  overrides : Table UInt8 (Handler Model) := {}

/-- A device in its surroundings. -/
structure Device where
  model : Model
  requests : RequestTable Model := StandardRequests.requests
  link : Link := {}

namespace Device

/-- A gadget in its surroundings. -/
def ofGadget (g : Gadget) (link : Link) : Device where
  model := g.model
  requests := StandardRequests.requests.merge g.overrides
  link := link

/-- Carries out a call that the transport never refuses. -/
def record (d : Device) (c : Call) (state : DeviceState) : Device :=
  { d with
    model := { d.model with state := state }
    link := { d.link with transport := d.link.transport.record c } }

/-- Connects to the bus. -/
def connect (d : Device) : Device := d.record .connect .powered

/-- Leaves the bus.  The active configuration stays, and so does the address. -/
def disconnect (d : Device) : Device := d.record .disconnect .detached

/-- Lets a target serve a request, if the target is there. -/
def serve? (requests : RequestTable Model) (target : Target) (r : Request) (link : Link)
    (m : Model) : Option (Answer Model) :=
  match target with
  | .device => some (requests.dispatch m.speed r link m)
  | .interface position => m.serveInterface? position (Interface.serve m.speed r link)
  | .endpoint number => m.serveEndpoint? number (Endpoint.serve m.speed r link)
  | .function kind => m.serveFunction? kind r link
  | .nobody => none

/-- The device after its model and its link have answered. -/
def afterAnswer (d : Device) (a : Answer Model) : Device × Option UsbError :=
  ({ d with model := a.state, link := a.link }, a.failure)

/-- Takes in a request. -/
def handleRequest (d : Device) (r : Request) : Device × Option UsbError :=
  let link := d.link.note .setupReceived
  d.afterAnswer <|
    (serve? d.requests (r.target d.model.policy) r link d.model).getD (link.stall d.model)

/-- Takes in a SETUP packet with its data stage. -/
def handleSetup (d : Device) (packet : Bytes) : Device × Option UsbError :=
  match Request.ofBytes packet with
  | .ok r => d.handleRequest r
  | .error e => (d, some e)

/-- Lets the endpoint of a number act, if the device is configured and has one. -/
def withEndpoint (d : Device) (number : UInt8) (act : Speed → Link → Endpoint → Answer Endpoint)
    (note : Link → Link) : Device × Option UsbError :=
  if d.model.state = .configured then
    match d.model.serveEndpoint? number (act d.model.speed (note d.link)) with
    | some answer => d.afterAnswer answer
    | none => (d, none)
  else (d, none)

/-- The reason that is signalled when data came in. -/
def dataReason (number : UInt8) : String :=
  "data received on endpoint " ++ Hex.literal 1 number.toNat

/-- Takes in data on an endpoint, which shows that the host uses the function. -/
def handleData (d : Device) (number : UInt8) (data : Bytes) : Device × Option UsbError :=
  d.withEndpoint number (fun speed link => Endpoint.receive speed data link)
    (·.signal (dataReason number))

/-- Learns that the host has room for data from an endpoint. -/
def handleBuffer (d : Device) (number : UInt8) : Device × Option UsbError :=
  d.withEndpoint number Endpoint.offer id

/-- Takes in one thing that the host does. -/
def handleEvent (d : Device) : HostEvent → Device × Option UsbError
  | .setup packet => d.handleSetup packet
  | .data ep data => d.handleData ep data
  | .bufferAvailable ep => d.handleBuffer ep

/-- The request that selects the configuration with a value. -/
def selectionRequest (value : UInt8) : Request :=
  { requestType := 0, code := RequestCode.setConfiguration, value := value.toUInt16 }

/-- Selects a configuration as the host would. -/
def setConfiguration (d : Device) (value : UInt8) : Device × Option UsbError :=
  d.handleRequest (selectionRequest value)

/-- Asks the application whether to stop, and tells it that it was asked. -/
def poll (d : Device) : Bool × Device :=
  (d.link.app.wantsStop d.link.history, { d with link := d.link.note .polled })

/-- Asks the application whether to stop, and leaves the bus if so. -/
def pollStop (d : Device) : Bool × Device :=
  let (stop, d) := d.poll
  (stop, if stop then d.disconnect else d)

/-- The descriptor that a type and an index ask for, as the host would get it. -/
def descriptor? (d : Device) (type index : UInt8) : Option Bytes × Device :=
  match d.model.layout? type index with
  | none => (none, d)
  | some layout =>
    let (bytes, link) := d.link.emit layout
    (some bytes, { d with link := link })

/-- Takes in events until they run out, one fails, or the application asks to stop; leaves the bus
unless one failed. -/
def attend (d : Device) : List HostEvent → Device × Option UsbError
  | [] => (d.poll.2.disconnect, none)
  | event :: events =>
    match d.poll with
    | (true, d) => (d.disconnect, none)
    | (false, d) =>
      match d.handleEvent event with
      | (d, some e) => (d, some e)
      | (d, none) => d.attend events

/-- Connects and takes in events. -/
def run (d : Device) (events : List HostEvent) : Device × Option UsbError := d.connect.attend events

/-- Runs a whole session, which leaves the bus even after a failure. -/
def runSession (d : Device) (events : List HostEvent) : Device × Option UsbError :=
  match d.run events with
  | (d, none) => (d, none)
  | (d, some e) => (if d.model.state = .detached then d else d.disconnect, some e)

/-- A one-line description. -/
def describe (d : Device) : String :=
  Describe.openRecord "Device"
    [("model", d.model.describe), ("requests", d.requests.describe)]

end Device
end UsbGadget
