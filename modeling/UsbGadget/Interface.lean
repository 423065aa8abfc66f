/-
# Interfaces

| bytes | field |
| --- | --- |
| 0 | 9 |
| 1 | type `04` |
| 2 | number |
| 3 | alternate setting |
| 4 | number of endpoints |
| 5–7 | class, subclass, protocol |
| 8 | string index |

For some classes a class descriptor follows; then come the class-specific
descriptors and the endpoints.  A class or vendor request goes to the
interface's own handler, or else to the first endpoint that has one.
-/

import UsbGadget.Endpoint
import UsbGadget.Serve

namespace UsbGadget

/-- What standard requests see of an interface: the alternate setting, and descriptors by type. -/
structure Interface.State where
  alternate : UInt8 := 0
  descriptors : Table UInt8 Bytes := {}

namespace Interface.State

/-- Replies with a status that has nothing to report. -/
def getStatus : Handler State := fun _ r link s => link.reply r [0, 0] s

/-- Replies with the descriptor of the type that is asked for, if there is one. -/
def getDescriptor : Handler State := fun _ r link s =>
  match s.descriptors.find? r.descriptorType with
  | some bytes => link.reply r bytes s
  | none => link.stall s

/-- Replies with the alternate setting. -/
def getInterface : Handler State := fun _ r link s => link.reply r [s.alternate] s

/-- The standard requests of an interface. -/
def requests : RequestTable State where
  entries := .ofList
    [(RequestCode.getStatus, getStatus), (RequestCode.getDescriptor, getDescriptor),
      (RequestCode.getInterface, getInterface), (RequestCode.setInterface, Handler.replyEmpty)]
  default := Handler.replyEmpty

end Interface.State

/-- An interface of a configuration. -/
structure Interface where
  number : UInt8
  classCode : UInt8
  subclassCode : UInt8 := 0
  protocolCode : UInt8 := 0
  name : Option String := none
  stringIndex : UInt8 := 0
  endpoints : List Endpoint := []
  classSpecific : List ClassSpecific := []
  functions : Functions := {}
  state : Interface.State := {}
  requests : RequestTable Interface.State := Interface.State.requests

namespace Interface

/-- The nine bytes of the descriptor itself. -/
def header (i : Interface) : Bytes :=
  [9, DescriptorType.interface, i.number, i.state.alternate, Bytes.countByte i.endpoints.length,
    i.classCode, i.subclassCode, i.protocolCode, i.stringIndex]

/-- The class descriptor right behind the header, for a class that has one there. -/
def legacyDescriptor (i : Interface) : Bytes :=
  ((InterfaceClass.legacyDescriptor? i.classCode).bind i.state.descriptors.find?).getD []

/-- The plan of the descriptor and all that follows it. -/
def layout (i : Interface) (speed : Speed) : Layout :=
  .node .interfaceDescriptor (i.header ++ i.legacyDescriptor ++ ·)
    (i.classSpecific.map (·.interfaceLayout) ++ i.endpoints.map (·.layout speed))

/-- Serves a standard request. -/
def serve (speed : Speed) (r : Request) (link : Link) (i : Interface) : Answer Interface :=
  (i.requests.dispatch speed r link i.state).map fun s => { i with state := s }

/-- Lets one of the endpoints act. -/
def serveEndpoints (i : Interface) (answer : Option (Answer (List Endpoint))) :
    Option (Answer Interface) :=
  answer.map (Answer.map fun eps => { i with endpoints := eps })

/-- Lets the interface's own handler of a kind serve a request, or else that of the first endpoint
that has one. -/
def serveFunction? (kind : HandlerKind) (speed : Speed) (r : Request) (link : Link)
    (i : Interface) : Option (Answer Interface) :=
  match i.functions.serve? kind speed r link with
  | some answer => some (answer.map fun f => { i with functions := f })
  | none => i.serveEndpoints (serveFirst (Endpoint.serveFunction? kind speed r link) i.endpoints)

/-- The handler that a request of a kind goes to. -/
def handler? (i : Interface) (kind : HandlerKind) : Option FunctionHandler :=
  (i.functions.get? kind).or (i.endpoints.findSome? (·.functions.get? kind))

/-- A one-line description. -/
def describe (i : Interface) : String :=
  Describe.openRecord "Interface"
    [("number", toString i.number.toNat), ("class", Hex.literal 2 i.classCode.toNat),
      ("subclass", toString i.subclassCode.toNat), ("protocol", toString i.protocolCode.toNat),
      ("endpoints", Describe.list (i.endpoints.map (·.describe)))]

end Interface
end UsbGadget
