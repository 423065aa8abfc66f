/-
# Stages

Every descriptor is built in a stage of its own, so that an application can
replace its bytes by naming the stage.  `ofName` reads a name, with white space
around it, back.
-/

import UsbGadget.Text.WhiteSpace

namespace UsbGadget

/-- What kind of descriptor is being built. -/
inductive Stage where
  | deviceDescriptor
  | deviceQualifierDescriptor
  | configurationDescriptor
  | otherSpeedConfigurationDescriptor
  | interfaceDescriptor
  | endpointDescriptor
  | classSpecificInterfaceDescriptor
  | classSpecificEndpointDescriptor
  | stringDescriptorZero
  | stringDescriptor
  | hubDescriptor
  | objectStoreDescriptor
  | deviceCapabilityDescriptor
  deriving DecidableEq, Repr

namespace Stage

/-- All stages. -/
def all : List Stage :=
  [deviceDescriptor, deviceQualifierDescriptor, configurationDescriptor,
    otherSpeedConfigurationDescriptor, interfaceDescriptor, endpointDescriptor,
    classSpecificInterfaceDescriptor, classSpecificEndpointDescriptor, stringDescriptorZero,
    stringDescriptor, hubDescriptor, objectStoreDescriptor, deviceCapabilityDescriptor]

/-- The position of a stage in `all`. -/
def index (s : Stage) : Nat := all.idxOf s

/-- Stages stand in the order of `all`. -/
instance : LT Stage := ⟨fun a b => a.index < b.index⟩

instance (a b : Stage) : Decidable (a < b) := inferInstanceAs (Decidable (a.index < b.index))

/-- The name of a stage in a file. -/
def name : Stage → String
  | deviceDescriptor => "device_descriptor"
  | deviceQualifierDescriptor => "device_qualifier_descriptor"
  | configurationDescriptor => "configuration_descriptor"
  | otherSpeedConfigurationDescriptor => "other_speed_configuration_descriptor"
  | interfaceDescriptor => "interface_descriptor"
  | endpointDescriptor => "endpoint_descriptor"
  | classSpecificInterfaceDescriptor => "cs_interface_descriptor"
  | classSpecificEndpointDescriptor => "cs_endpoint_descriptor"
  | stringDescriptorZero => "string_descriptor_zero"
  | stringDescriptor => "string_descriptor"
  | hubDescriptor => "hub_descriptor"
  | objectStoreDescriptor => "bos_descriptor"
  | deviceCapabilityDescriptor => "device_capability_descriptor"

/-- The stage with exactly this name. -/
def ofExactName? (s : String) : Option Stage := all.find? fun stage => stage.name = s

/-- A name that no stage has, as it was given. -/
structure Unknown where
  given : String
  deriving DecidableEq, Repr

/-- The wording of the failure. -/
def Unknown.message (u : Unknown) : String := "unknown mutation stage `" ++ u.given ++ "`"

/-- Reads the name of a stage, with white space around it. -/
def ofName (s : String) : Except Unknown Stage :=
  match ofExactName? (WhiteSpace.trim s) with
  | some stage => .ok stage
  | none => .error ⟨s⟩

end Stage
end UsbGadget
