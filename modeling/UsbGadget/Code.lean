/-
# Codes of the bus

The numbers that the standards fix: types of descriptors, codes of requests,
selectors of features, classes of interfaces and types of device capabilities.

| descriptor | type | | descriptor | type |
| --- | ---: | --- | --- | ---: |
| device | `01` | | binary object store | `0f` |
| configuration | `02` | | device capability | `10` |
| string | `03` | | HID | `21` |
| interface | `04` | | class-specific interface | `24` |
| endpoint | `05` | | class-specific endpoint | `25` |
| device qualifier | `06` | | hub | `29` |
| other speed configuration | `07` | | | |
-/

namespace UsbGadget

namespace DescriptorType

def device : UInt8 := 0x01
def configuration : UInt8 := 0x02
def string : UInt8 := 0x03
def interface : UInt8 := 0x04
def endpoint : UInt8 := 0x05
def deviceQualifier : UInt8 := 0x06
def otherSpeedConfiguration : UInt8 := 0x07
def objectStore : UInt8 := 0x0f
def deviceCapability : UInt8 := 0x10
def hid : UInt8 := 0x21
def classSpecificInterface : UInt8 := 0x24
def classSpecificEndpoint : UInt8 := 0x25
def hub : UInt8 := 0x29

end DescriptorType

namespace RequestCode

def getStatus : UInt8 := 0x00
def clearFeature : UInt8 := 0x01
def setFeature : UInt8 := 0x03
def setAddress : UInt8 := 0x05
def getDescriptor : UInt8 := 0x06
def setDescriptor : UInt8 := 0x07
def getConfiguration : UInt8 := 0x08
def setConfiguration : UInt8 := 0x09
def getInterface : UInt8 := 0x0a
def setInterface : UInt8 := 0x0b
def synchFrame : UInt8 := 0x0c

/-- The query for the version of the accessory protocol that a phone answers. -/
def getAccessoryProtocol : UInt8 := 0x33

end RequestCode

namespace Feature

def endpointHalt : UInt16 := 0
def deviceRemoteWakeup : UInt16 := 1

end Feature

namespace InterfaceClass

def communications : UInt8 := 0x02
def hid : UInt8 := 0x03
def hub : UInt8 := 0x09
def communicationsData : UInt8 := 0x0a
def smartCard : UInt8 := 0x0b
def billboard : UInt8 := 0x11

/-- The type of the class descriptor that stands right after the interface descriptor, for the
classes that have one there. -/
def legacyDescriptor? (c : UInt8) : Option UInt8 :=
  if c = hid ∨ c = smartCard then some DescriptorType.hid else none

end InterfaceClass

namespace CapabilityType

def usb20Extension : UInt8 := 0x02
def containerId : UInt8 := 0x04
def billboard : UInt8 := 0x0d

end CapabilityType

end UsbGadget
