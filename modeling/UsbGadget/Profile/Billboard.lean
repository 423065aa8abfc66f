/-
# The billboard profile

A device that only tells which alternate modes could not be entered.  A host
reads that in the binary object store, right after the device descriptor; doing
so shows that it supports billboards, so the request for a descriptor is served
by a handler that signals it.
-/

import UsbGadget.Profile.Options

namespace UsbGadget
namespace BillboardProfile

/-- Replies with a descriptor like the standard request, and signals when it is the object store. -/
def getDescriptor : Handler Model := fun _ r link m =>
  match m.layout? r.descriptorType r.descriptorIndex with
  | none => link.stall m
  | some layout =>
    let (bytes, link) := link.emit layout
    let link :=
      if r.descriptorType = DescriptorType.objectStore then link.signal "billboard BOS requested"
      else link
    link.reply r bytes m

/-- The identity of the billboard. -/
def info : DeviceInfo where
  usbVersion := 0x0201
  classCode := InterfaceClass.billboard
  vendorId := 0x2548
  productId := 0x1003
  revision := 0x0100
  manufacturer := some "Phantom"
  product := some "Phantom Billboard"
  serial := some "00000001"

/-- The object store: link power management, and one mode that could not be entered. -/
def objectStore (url mode : UInt8) : ObjectStore where
  capabilities :=
    [.usb20Extension Capability.linkPowerManagement,
      .billboard { infoUrl := url, modes := [⟨0xff01, 0, mode, .unsuccessful⟩] }]

/-- The model, whose strings are registered before the object store refers to them. -/
def model (o : ProfileOptions) : Except UsbError Model := do
  let m ← Model.build info
    [{ interfaces := [{ number := 0, classCode := InterfaceClass.billboard }] }]
  let (url, m) := m.registerString "https://www.usb.org/"
  let (mode, m) := m.registerString "DisplayPort"
  return o.apply { m with objectStore := some (objectStore url mode) }

/-- The billboard. -/
def build (o : ProfileOptions) : Except UsbError Gadget := do
  let m ← model o
  return { model := m, overrides := .ofList [(RequestCode.getDescriptor, getDescriptor)] }

end BillboardProfile
end UsbGadget
