/-
# Bus speeds

A device runs at full or at high speed; a descriptor for the other speed
describes what it would be at the one it does not run at.
-/

namespace UsbGadget

/-- The speed that a device runs at. -/
inductive Speed where
  | full
  | high
  deriving DecidableEq, Repr, Inhabited

namespace Speed

/-- Both speeds. -/
def all : List Speed := [full, high]

/-- The speed that is not this one. -/
def other : Speed → Speed
  | full => high
  | high => full

/-- The name of a speed in a file. -/
def name : Speed → String
  | full => "full"
  | high => "high"

end Speed
end UsbGadget
