/-
# Device models

A model is a device without its surroundings: identity, strings, configurations
and what the host has made of them.  The device descriptor:

| bytes | field | | bytes | field |
| --- | --- | --- | --- | --- |
| 0 | 18 | | 8–9 | vendor |
| 1 | type `01` | | 10–11 | product |
| 2–3 | version of the standard | | 12–13 | revision |
| 4–6 | class, subclass, protocol | | 14–16 | indices of manufacturer, product, serial |
| 7 | largest control packet | | 17 | number of configurations |

The qualifier has ten bytes: length, type `06`, bytes 2 to 7 of the above, the
number of configurations, and 0.

* `build` numbers the configurations from 1 and registers all names;
* `layout?` is the plan of the descriptor that a type and an index ask for;
* `selectConfiguration?` is what the request to set a configuration does;
* `serveInterface?`, `serveEndpoint?`, `serveFunction?` reach into the active
  configuration.
-/

import UsbGadget.Configuration
import UsbGadget.Descriptor.Text
import UsbGadget.ObjectStore
import UsbGadget.Policy
import UsbGadget.StringTable

namespace UsbGadget

/-- How far the host has come with a device. -/
inductive DeviceState where
  | detached
  | powered
  | configured
  deriving DecidableEq, Repr

/-- The word for a state in messages. -/
def DeviceState.describe : DeviceState → String
  | detached => "Detached"
  | powered => "Powered"
  | configured => "Configured"

/-- The word for a speed in a description. -/
def Speed.describe : Speed → String
  | full => "Full"
  | high => "High"

/-- The identity of a device. -/
structure DeviceInfo where
  usbVersion : UInt16 := 0x0200
  classCode : UInt8 := 0
  subclassCode : UInt8 := 0
  protocolCode : UInt8 := 0
  maxControlPacket : UInt8 := 64
  vendorId : UInt16 := 0
  productId : UInt16 := 0
  revision : UInt16 := 0
  manufacturer : Option String := none
  product : Option String := none
  serial : Option String := none
  deriving DecidableEq, Repr

namespace DeviceInfo

/-- A one-line description of an optional name. -/
def describeName (name : Option String) : String := Describe.optional (name.map Describe.quoted)

/-- A one-line description. -/
def describe (i : DeviceInfo) : String :=
  Describe.record "DeviceInfo"
    [("usb_version", toString i.usbVersion.toNat), ("class", toString i.classCode.toNat),
      ("subclass", toString i.subclassCode.toNat), ("protocol", toString i.protocolCode.toNat),
      ("max_packet_size_ep0", toString i.maxControlPacket.toNat),
      ("vendor_id", toString i.vendorId.toNat), ("product_id", toString i.productId.toNat),
      ("revision", toString i.revision.toNat), ("manufacturer", describeName i.manufacturer),
      ("product", describeName i.product), ("serial", describeName i.serial)]

end DeviceInfo

/-- A device without its surroundings. -/
structure Model where
  info : DeviceInfo
  strings : StringTable
  manufacturerIndex : UInt8
  productIndex : UInt8
  serialIndex : UInt8
  configurations : List Configuration
  active : Option Nat := none
  routes : Table UInt8 Slot := {}
  state : DeviceState := .detached
  speed : Speed := .full
  address : UInt8 := 0
  remoteWakeup : Bool := false
  objectStore : Option ObjectStore := none
  policy : Policy := {}

namespace Model

/-- The most configurations that one-byte values number. -/
def maxConfigurations : Nat := 255

/-- Registers the names of interfaces, in order. -/
def nameInterfaces (t : StringTable) : List Interface → List Interface × StringTable
  | [] => ([], t)
  | i :: is =>
    let (index, t) := t.registerName i.name
    let (is, t) := nameInterfaces t is
    ({ i with stringIndex := index } :: is, t)

/-- Numbers configurations from `value` on and registers their names and those of their interfaces,
in order. -/
def numberConfigurations (t : StringTable) (value : Nat) :
    List Configuration → List Configuration × StringTable
  | [] => ([], t)
  | c :: cs =>
    let (index, t) := t.registerName c.name
    let (is, t) := nameInterfaces t c.interfaces
    let (cs, t) := numberConfigurations t (value + 1) cs
    ({ c with value := UInt8.ofNat value, stringIndex := index, interfaces := is } :: cs, t)

/-- The model of an identity and its configurations, of which there must be at least one and at
most 255. -/
def build (info : DeviceInfo) (configurations : List Configuration) : Except UsbError Model :=
  if configurations.isEmpty then .error .noConfigurations
  else if maxConfigurations < configurations.length then
    .error (.tooManyConfigurations configurations.length)
  else
    let (manufacturer, t) := StringTable.registerName {} info.manufacturer
    let (product, t) := t.registerName info.product
    let (serial, t) := t.registerName info.serial
    let (configurations, t) := numberConfigurations t 1 configurations
    .ok
      { info := info, strings := t, manufacturerIndex := manufacturer, productIndex := product,
        serialIndex := serial, configurations := configurations }

/-- The index of a string, which is registered if need be. -/
def registerString (m : Model) (s : String) : UInt8 × Model :=
  let (index, t) := m.strings.register s
  (index, { m with strings := t })

/-- The active configuration. -/
def activeConfiguration? (m : Model) : Option Configuration :=
  m.active.bind fun i => m.configurations[i]?

/-- The value of the active configuration, 0 if there is none. -/
def activeValue (m : Model) : UInt8 := (m.activeConfiguration?).elim 0 (·.value)

/-- The endpoint numbers that the active configuration routes. -/
def endpointNumbers (m : Model) : List UInt8 := m.routes.keys

/-- The interface at a position of the active configuration. -/
def interface? (m : Model) (position : Nat) : Option Interface :=
  m.activeConfiguration?.bind (·.interfaces[position]?)

/-- The endpoint that traffic of a number goes to. -/
def endpoint? (m : Model) (number : UInt8) : Option Endpoint :=
  (m.routes.find? number).bind fun slot => m.activeConfiguration?.bind (·.endpointAt? slot)

/-- The handler that requests of a kind go to. -/
def handler? (m : Model) (kind : HandlerKind) : Option FunctionHandler :=
  m.activeConfiguration?.bind (·.handler? kind)

/-- The lines that the endpoints have received. -/
def receivedLines (m : Model) : List String :=
  m.configurations.flatMap fun c => c.interfaces.flatMap fun i => i.endpoints.flatMap fun ep =>
    (ep.traffic.map (·.lines)).getD []

/-- The bytes that the device descriptor and the qualifier share. -/
def identityBytes (m : Model) : Bytes :=
  Bytes.ofWord m.info.usbVersion ++
    [m.info.classCode, m.info.subclassCode, m.info.protocolCode, m.info.maxControlPacket]

/-- The device descriptor. -/
def deviceDescriptor (m : Model) : Bytes :=
  [18, DescriptorType.device] ++ m.identityBytes ++ Bytes.ofWord m.info.vendorId ++
    Bytes.ofWord m.info.productId ++ Bytes.ofWord m.info.revision ++
    [m.manufacturerIndex, m.productIndex, m.serialIndex, Bytes.countByte m.configurations.length]

/-- The device qualifier. -/
def deviceQualifier (m : Model) : Bytes :=
  [10, DescriptorType.deviceQualifier] ++ m.identityBytes ++
    [Bytes.countByte m.configurations.length, 0]

/-- The configuration with an index from 0, or the first one past the end. -/
def configurationOrFirst? (m : Model) (index : UInt8) : Option Configuration :=
  m.configurations[index.toNat]?.or m.configurations.head?

/-- The plan of a string descriptor. -/
def stringLayout? (m : Model) (index : UInt8) : Option Layout :=
  if index = 0 then
    some (.leaf .stringDescriptorZero (StringDescriptor.ofLanguage StringDescriptor.english))
  else (m.strings.get? index).map fun s => .leaf .stringDescriptor (StringDescriptor.ofText s)

/-- The plan of the descriptor that a type and an index ask for, if there is one. -/
def layout? (m : Model) (type index : UInt8) : Option Layout :=
  if type = DescriptorType.device then some (.leaf .deviceDescriptor m.deviceDescriptor)
  else if type = DescriptorType.configuration then
    (m.configurationOrFirst? index).map (·.layout m.speed)
  else if type = DescriptorType.otherSpeedConfiguration then
    (m.configurationOrFirst? index).map (·.otherSpeedLayout m.speed.other)
  else if type = DescriptorType.string then m.stringLayout? index
  else if type = DescriptorType.hub then some Hub.descriptorLayout
  else if type = DescriptorType.deviceQualifier then
    some (.leaf .deviceQualifierDescriptor m.deviceQualifier)
  else if type = DescriptorType.objectStore then m.objectStore.map (·.layout)
  else none

/-- The descriptor that a type and an index ask for, when nothing is replaced. -/
def descriptor? (m : Model) (type index : UInt8) : Option Bytes :=
  (m.layout? type index).map (·.canonical)

/-- Makes the configuration at a position the active one. -/
def activate (m : Model) (position : Nat) (c : Configuration) : Model :=
  { m with active := some position, routes := c.routes, state := .configured }

/-- Leaves every configuration. -/
def deconfigure (m : Model) : Model := { m with active := none, routes := {}, state := .powered }

/-- The position of the configuration that a value above 0 selects, if any. -/
def selectedPosition? (m : Model) (value : UInt8) : Option Nat :=
  if m.configurations.length < value.toNat then
    match m.policy.invalidConfiguration with
    | .fallbackToFirst => some 0
    | .stall => none
  else some (value.toNat - 1)

/-- Selects the configuration with a value, where 0 leaves every configuration; `none` when the
value is refused. -/
def selectConfiguration? (m : Model) (value : UInt8) : Option Model :=
  if value = 0 then some m.deconfigure
  else do
    let position ← m.selectedPosition? value
    let c ← m.configurations[position]?
    return m.activate position c

/-- Lets the active configuration serve, if there is one and it can. -/
def serveActive? (serve : Configuration → Option (Answer Configuration)) (m : Model) :
    Option (Answer Model) :=
  m.active.bind fun position =>
    (serveAt serve position m.configurations).map
      (Answer.map fun cs => { m with configurations := cs })

/-- Lets the interface at a position of the active configuration serve. -/
def serveInterface? (position : Nat) (serve : Interface → Answer Interface) (m : Model) :
    Option (Answer Model) :=
  m.serveActive? (Configuration.serveInterface? position serve)

/-- Lets the endpoint that traffic of a number goes to serve. -/
def serveEndpoint? (number : UInt8) (serve : Endpoint → Answer Endpoint) (m : Model) :
    Option (Answer Model) :=
  (m.routes.find? number).bind fun slot =>
    m.serveActive? (Configuration.serveEndpoint? slot serve)

/-- Lets the handler that requests of a kind go to serve one. -/
def serveFunction? (kind : HandlerKind) (r : Request) (link : Link) (m : Model) :
    Option (Answer Model) :=
  m.serveActive? (Configuration.serveFunction? kind m.speed r link)

/-- A one-line description. -/
def describe (m : Model) : String :=
  Describe.openRecord "DeviceModel"
    [("info", m.info.describe), ("state", m.state.describe), ("speed", m.speed.describe),
      ("active", Describe.optional (m.active.map toString)),
      ("configurations", Describe.list (m.configurations.map (·.describe))),
      ("bos", Describe.optional (m.objectStore.map (·.describe)))]

end Model
end UsbGadget
