/-
# Configurations

| bytes | field | |
| --- | --- | --- |
| 0 | 9 | |
| 1 | type `02`, or `07` for the other speed | |
| 2–3 | length of the configuration with all that follows | |
| 4 | number of interfaces | |
| 5 | value | |
| 6 | string index | |
| 7 | attributes | bit 7 is set, bit 6: self-powered, bit 5: remote wakeup |
| 8 | power from the bus, in units of 2 mA | |

`routes` says which endpoint gets the traffic of a number: the last one that has
it, in the order of the interfaces.
-/

import UsbGadget.Interface

namespace UsbGadget

/-- The place of an endpoint in a configuration. -/
structure Slot where
  interface : Nat
  endpoint : Nat
  deriving DecidableEq, Repr

namespace ConfigurationAttributes

def reserved : UInt8 := 0x80
def selfPowered : UInt8 := 0x40
def remoteWakeup : UInt8 := 0x20

/-- The bits that have a name, with their names. -/
def named : List (UInt8 × String) :=
  [(reserved, "RESERVED"), (selfPowered, "SELF_POWERED"), (remoteWakeup, "REMOTE_WAKEUP")]

/-- The bits that have no name. -/
def unnamed (a : UInt8) : UInt8 := a &&& 0x1f

/-- A one-line description: the names of the bits, and the bits without a name as one number. -/
def describe (a : UInt8) : String :=
  let names := (named.filter fun n => a &&& n.1 ≠ 0).map (·.2)
  let rest := if unnamed a = 0 then [] else [Hex.literal 1 (unnamed a).toNat]
  "ConfigAttributes(" ++ " | ".intercalate (names ++ rest) ++ ")"

end ConfigurationAttributes

/-- A configuration of a device. -/
structure Configuration where
  value : UInt8 := 1
  name : Option String := none
  stringIndex : UInt8 := 0
  attributes : UInt8 := ConfigurationAttributes.reserved ||| ConfigurationAttributes.selfPowered
  maxPower : UInt8 := 0x32
  interfaces : List Interface := []

namespace Configuration

/-- The configuration with other attributes; the reserved bit is always set. -/
def withAttributes (c : Configuration) (attributes : UInt8) : Configuration :=
  { c with attributes := attributes ||| ConfigurationAttributes.reserved }

/-- Whether the device has power of its own. -/
def isSelfPowered (c : Configuration) : Bool :=
  c.attributes &&& ConfigurationAttributes.selfPowered ≠ 0

/-- The header, with the type that is given, and the bytes of the interfaces. -/
def frame (c : Configuration) (type : UInt8) (body : Bytes) : Bytes :=
  [9, type] ++ Bytes.ofWord (Bytes.totalWord (9 + body.length)) ++
    [Bytes.countByte c.interfaces.length, c.value, c.stringIndex, c.attributes, c.maxPower] ++ body

/-- The plan of the descriptor at a speed. -/
def layout (c : Configuration) (speed : Speed) : Layout :=
  .node .configurationDescriptor (c.frame DescriptorType.configuration)
    (c.interfaces.map (·.layout speed))

/-- The plan of the descriptor for a speed that the device does not run at. -/
def otherSpeedLayout (c : Configuration) (speed : Speed) : Layout :=
  .node .otherSpeedConfigurationDescriptor (c.frame DescriptorType.otherSpeedConfiguration)
    (c.interfaces.map (·.layout speed))

/-- The endpoint numbers in the order of the interfaces, with their places. -/
def slots (c : Configuration) : List (UInt8 × Slot) :=
  c.interfaces.zipIdx.flatMap fun (i, position) =>
    i.endpoints.zipIdx.map fun (ep, place) => (ep.number, ⟨position, place⟩)

/-- The place that the traffic of each endpoint number goes to. -/
def routes (c : Configuration) : Table UInt8 Slot := .ofList c.slots

/-- The endpoint at a place. -/
def endpointAt? (c : Configuration) (slot : Slot) : Option Endpoint :=
  (c.interfaces[slot.interface]?).bind (·.endpoints[slot.endpoint]?)

/-- The configuration after one of its interfaces has served. -/
def serveInterfaces (c : Configuration) (answer : Option (Answer (List Interface))) :
    Option (Answer Configuration) :=
  answer.map (Answer.map fun is => { c with interfaces := is })

/-- Lets the interface at a position serve, if there is one. -/
def serveInterface? (position : Nat) (serve : Interface → Answer Interface) (c : Configuration) :
    Option (Answer Configuration) :=
  c.serveInterfaces (serveAt (fun i => some (serve i)) position c.interfaces)

/-- Lets the endpoint at a place serve, if there is one. -/
def serveEndpoint? (slot : Slot) (serve : Endpoint → Answer Endpoint) (c : Configuration) :
    Option (Answer Configuration) :=
  c.serveInterfaces <| serveAt
    (fun i => i.serveEndpoints (serveAt (fun ep => some (serve ep)) slot.endpoint i.endpoints))
    slot.interface c.interfaces

/-- Lets the handler of the first interface that has one of the kind serve a request. -/
def serveFunction? (kind : HandlerKind) (speed : Speed) (r : Request) (link : Link)
    (c : Configuration) : Option (Answer Configuration) :=
  c.serveInterfaces (serveFirst (Interface.serveFunction? kind speed r link) c.interfaces)

/-- The handler that a request of a kind goes to. -/
def handler? (c : Configuration) (kind : HandlerKind) : Option FunctionHandler :=
  c.interfaces.findSome? (·.handler? kind)

/-- A one-line description. -/
def describe (c : Configuration) : String :=
  Describe.openRecord "Configuration"
    [("value", toString c.value.toNat),
      ("attributes", ConfigurationAttributes.describe c.attributes),
      ("max_power", toString c.maxPower.toNat),
      ("interfaces", Describe.list (c.interfaces.map (·.describe)))]

end Configuration
end UsbGadget
