/-
# Profile options

What a user may set on top of a profile: the ids and the speed.
-/

import UsbGadget.Device

namespace UsbGadget

/-- What a user sets on top of a profile. -/
structure ProfileOptions where
  vendorId : Option UInt16 := none
  productId : Option UInt16 := none
  revision : Option UInt16 := none
  speed : Option Speed := none
  deriving DecidableEq, Repr

namespace ProfileOptions

/-- The identity with what the user set. -/
def applyInfo (o : ProfileOptions) (i : DeviceInfo) : DeviceInfo :=
  { i with
    vendorId := o.vendorId.getD i.vendorId
    productId := o.productId.getD i.productId
    revision := o.revision.getD i.revision }

/-- The model with what the user set. -/
def apply (o : ProfileOptions) (m : Model) : Model :=
  { m with info := o.applyInfo m.info, speed := o.speed.getD m.speed }

end ProfileOptions
end UsbGadget
