/-
# The registry of profiles

Profiles by name, with a description and a constructor.  The first registration
of a name stays; names are listed in their order.
-/

import UsbGadget.Profile.Billboard
import UsbGadget.Profile.Cdc
import UsbGadget.Profile.Hub

namespace UsbGadget

/-- Makes a gadget from what the user set. -/
abbrev Constructor := ProfileOptions → Except UsbError Gadget

/-- Why a profile cannot be had. -/
inductive ProfileError where
  | unknown (name : String)
  | duplicate (name : String)
  | build (cause : UsbError)
  deriving DecidableEq, Repr

/-- The wording of the failure. -/
def ProfileError.message : ProfileError → String
  | unknown name => "unknown device profile `" ++ name ++ "`"
  | duplicate name => "device profile `" ++ name ++ "` is already registered"
  | build cause => "failed to build device profile: " ++ cause.message

/-- The profiles that are built in. -/
inductive Profile where
  | billboard
  | cdcAcm
  | cdcDl
  | hub
  deriving DecidableEq, Repr

namespace Profile

/-- All profiles, in the order of their names. -/
def all : List Profile := [billboard, cdcAcm, cdcDl, hub]

/-- The name of a profile. -/
def name : Profile → String
  | billboard => "billboard"
  | cdcAcm => "cdc_acm"
  | cdcDl => "cdc_dl"
  | hub => "hub"

/-- What a profile is. -/
def description : Profile → String
  | billboard => "A billboard, requires USB 2.1 and higher"
  | cdcAcm => "Abstract Control Model device (like serial modem)"
  | cdcDl => "Direct Line Control device (like modem)"
  | hub => "USB hub"

/-- The constructor of a profile. -/
def build : Profile → Constructor
  | billboard => BillboardProfile.build
  | cdcAcm => Cdc.build Cdc.acm
  | cdcDl => Cdc.build Cdc.dl
  | hub => Hub.build

/-- The profile with a name. -/
def ofName (s : String) : Except ProfileError Profile :=
  match all.find? fun p => p.name = s with
  | some p => .ok p
  | none => .error (.unknown s)

end Profile

/-- What is registered under a name. -/
structure ProfileEntry where
  description : String
  construct : Constructor

/-- A one-line description. -/
def ProfileEntry.describe (e : ProfileEntry) : String :=
  Describe.openRecord "ProfileEntry" [("description", Describe.quoted e.description)]

/-- Profiles by name. -/
structure Registry where
  entries : Table String ProfileEntry := {}

namespace Registry

/-- The registry with no profile. -/
def empty : Registry := {}

/-- The registry of the profiles that are built in. -/
def builtins : Registry :=
  ⟨.ofList (Profile.all.map fun p => (p.name, ⟨p.description, p.build⟩))⟩

/-- Registers a profile, unless the name is taken: the registry afterwards, and the failure if there
was one. -/
def register (reg : Registry) (name : String) (entry : ProfileEntry) :
    Registry × Option ProfileError :=
  if reg.entries.contains name then (reg, some (.duplicate name))
  else (⟨reg.entries.insert name entry⟩, none)

/-- What is registered under a name. -/
def get? (reg : Registry) (name : String) : Option ProfileEntry := reg.entries.find? name

/-- The names in their order. -/
def names (reg : Registry) : List String := reg.entries.keys

/-- The names in their order, with the descriptions. -/
def descriptions (reg : Registry) : List (String × String) :=
  reg.entries.entries.map fun e => (e.1, e.2.description)

/-- Makes the gadget that is registered under a name. -/
def build (reg : Registry) (name : String) (o : ProfileOptions) : Except ProfileError Gadget :=
  match reg.get? name with
  | none => .error (.unknown name)
  | some entry => (entry.construct o).mapError .build

end Registry
end UsbGadget
