/-
# The binary object store

The capabilities of a device behind a header of five bytes:

| bytes | field |
| --- | --- |
| 0 | 5 |
| 1 | type `0f` |
| 2–3 | length of the whole store |
| 4 | number of capabilities |
-/

import UsbGadget.Capability
import UsbGadget.Text.Describe

namespace UsbGadget

/-- The capabilities of a device. -/
structure ObjectStore where
  capabilities : List Capability := []
  deriving DecidableEq, Repr

namespace ObjectStore

/-- The header and the bytes of the capabilities. -/
def frame (count : Nat) (body : Bytes) : Bytes :=
  [5, DescriptorType.objectStore] ++ Bytes.ofWord (Bytes.totalWord (5 + body.length)) ++
    [Bytes.countByte count] ++ body

/-- The plan of the store. -/
def layout (s : ObjectStore) : Layout :=
  .node .objectStoreDescriptor (frame s.capabilities.length) (s.capabilities.map Capability.layout)

/-- A one-line description: the types of the capabilities. -/
def describe (s : ObjectStore) : String :=
  Describe.record "BinaryObjectStore"
    [("capabilities", Describe.list (s.capabilities.map fun c => toString c.type.toNat))]

end ObjectStore
end UsbGadget
