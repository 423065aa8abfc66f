/-
# Serial line profiles

Two modems that differ in their control model alone: abstract control (`acm`)
and direct line control (`dl`).  Interface 0 carries the functional descriptors,
the class requests and a notification endpoint; interface 1 receives lines on
endpoint 1 and sends the same frame on endpoint 2 whenever there is room.
-/

import UsbGadget.Profile.Options

namespace UsbGadget
namespace Cdc

/-- Subtypes of functional descriptors. -/
inductive FunctionalDescriptor where
  | header
  | callManagement
  | abstractControl
  | directLine
  | union
  deriving DecidableEq, Repr

/-- The code of a subtype. -/
def FunctionalDescriptor.code : FunctionalDescriptor → UInt8
  | header => 0x00
  | callManagement => 0x01
  | abstractControl => 0x02
  | directLine => 0x03
  | union => 0x06

/-- What the two modems differ in. -/
structure Variant where
  product : String
  subclassCode : UInt8
  controlModel : FunctionalDescriptor
  frame : Bytes

/-- A broadcast ARP request. -/
def arpFrame : Bytes :=
  [0xff, 0xff, 0xff, 0xff, 0xff, 0xff, 0xaa, 0xbb, 0xcc, 0xdd, 0xee, 0xff, 0x08, 0x06, 0x00, 0x01,
    0x08, 0x00, 0x06, 0x04, 0x00, 0x01, 0x60, 0x03, 0x08, 0xaa, 0xaa, 0xaa, 0xc0, 0xa8, 0x00, 0x65,
    0x00, 0x00, 0x00, 0x00, 0x00, 0x00, 0xc0, 0xa8, 0x01, 0x00]

/-- Sixteen bytes of no meaning. -/
def junkFrame : Bytes :=
  [0x00, 0x11, 0x22, 0x33, 0x44, 0x55, 0x66, 0x77, 0x88, 0x99, 0xaa, 0xbb, 0xcc, 0xdd, 0xee, 0xff]

/-- The modem with abstract control. -/
def acm : Variant where
  product := "CDC ACM Device"
  subclassCode := 0x02
  controlModel := .abstractControl
  frame := arpFrame

/-- The modem with direct line control. -/
def dl : Variant where
  product := "CDC DL Device"
  subclassCode := 0x01
  controlModel := .directLine
  frame := junkFrame

/-- A functional descriptor: its subtype and its fields. -/
def functional (subtype : FunctionalDescriptor) (fields : Bytes) : ClassSpecific :=
  .ofPayload (subtype.code :: fields)

/-- The interface with the class requests. -/
def controlInterface (v : Variant) : Interface where
  number := 0
  classCode := InterfaceClass.communications
  subclassCode := v.subclassCode
  protocolCode := 0x01
  classSpecific :=
    [functional .header [0x01, 0x01], functional .callManagement [0x01, 1],
      functional v.controlModel [0x01], functional .union [0, 1]]
  endpoints :=
    [{ Endpoint.ofNumber 3 .deviceToHost .interrupt 0x10 with interval := 0x20 }]
  functions := { classHandler := some (.cdc {}) }

/-- The interface with the serial stream. -/
def dataInterface (v : Variant) : Interface where
  number := 1
  classCode := InterfaceClass.communicationsData
  endpoints :=
    [{ Endpoint.ofNumber 1 .hostToDevice .bulk 0x40 with traffic := some (.receiver {}) },
     { Endpoint.ofNumber 2 .deviceToHost .bulk 0x40 with
       traffic := some (.responder 2 v.frame) }]

/-- The identity of a modem. -/
def info (v : Variant) : DeviceInfo where
  classCode := InterfaceClass.communications
  vendorId := 0x2548
  productId := 0x1001
  revision := 0x0010
  manufacturer := some "Phantom"
  product := some v.product
  serial := some "00000001"

/-- A modem. -/
def build (v : Variant) (o : ProfileOptions) : Except UsbError Gadget := do
  let m ← Model.build (info v)
    [{ name := some "Emulated CDC", interfaces := [controlInterface v, dataInterface v] }]
  return { model := o.apply m }

end Cdc
end UsbGadget
