/-
# Policies

Two requests that hosts make have no agreed answer: one to the other recipient,
and one that selects a configuration that does not exist.
-/

namespace UsbGadget

/-- Where a standard request to the other recipient goes. -/
inductive OtherRecipientPolicy where
  | firstInterface
  | stall
  deriving DecidableEq, Repr

/-- What selecting a configuration that does not exist does. -/
inductive InvalidConfigurationPolicy where
  | fallbackToFirst
  | stall
  deriving DecidableEq, Repr

/-- The choices of a device. -/
structure Policy where
  otherRecipient : OtherRecipientPolicy := .firstInterface
  invalidConfiguration : InvalidConfigurationPolicy := .fallbackToFirst
  deriving DecidableEq, Repr

/-- Both choices for the other recipient. -/
def OtherRecipientPolicy.all : List OtherRecipientPolicy := [firstInterface, stall]

/-- The name of a choice in a file. -/
def OtherRecipientPolicy.name : OtherRecipientPolicy → String
  | firstInterface => "first_interface"
  | stall => "stall"

/-- Both choices for a configuration that does not exist. -/
def InvalidConfigurationPolicy.all : List InvalidConfigurationPolicy := [fallbackToFirst, stall]

/-- The name of a choice in a file. -/
def InvalidConfigurationPolicy.name : InvalidConfigurationPolicy → String
  | fallbackToFirst => "fallback_to_first"
  | stall => "stall"

end UsbGadget
