/-
# The hub profile

A hub with four ports and nothing attached.  Its only endpoint would report
changes of the ports; there are none, so it stays silent.
-/

import UsbGadget.Profile.Options

namespace UsbGadget
namespace Hub

/-- The only interface. -/
def hubInterface : Interface where
  number := 0
  classCode := InterfaceClass.hub
  endpoints :=
    [{ Endpoint.ofNumber 1 .deviceToHost .interrupt 1 with
       interval := 0x0c
       traffic := some .silent }]
  functions := { classHandler := some (.hub {}) }

/-- The identity of the hub. -/
def info : DeviceInfo where
  classCode := InterfaceClass.hub
  vendorId := 0x05e3
  productId := 0x0608
  revision := 0x7764
  manufacturer := some "Phantom"
  product := some "Phantom Hub"
  serial := some "00000001"

/-- The hub. -/
def build (o : ProfileOptions) : Except UsbError Gadget := do
  let m ← Model.build info [{ interfaces := [hubInterface] }]
  return { model := o.apply m }

end Hub
end UsbGadget
