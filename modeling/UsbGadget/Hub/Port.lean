/-
# Hub ports

A port of a hub with nothing attached.  It can be powered, but never becomes
enabled, since the hub enables a port only when a device is there; so it cannot
be suspended either.

| status bit | | change bit | |
| ---: | --- | ---: | --- |
| 1 | enabled | 1 | enabled changed |
| 2 | suspended | 2 | suspended changed |
| 8 | powered | 4 | reset is over |
-/

namespace UsbGadget
namespace Hub

namespace PortFeature

def enable : UInt16 := 1
def suspend : UInt16 := 2
def reset : UInt16 := 4
def power : UInt16 := 8
def connectionChange : UInt16 := 16
def enableChange : UInt16 := 17
def suspendChange : UInt16 := 18
def overCurrentChange : UInt16 := 19
def resetChange : UInt16 := 20

end PortFeature

/-- A port of a hub. -/
structure Port where
  powered : Bool := false
  enabled : Bool := false
  suspended : Bool := false
  enableChanged : Bool := false
  suspendChanged : Bool := false
  resetDone : Bool := false
  deriving DecidableEq, Repr

namespace Port

/-- The bit at a position, if it is set. -/
def bit (position : UInt16) (set : Bool) : UInt16 := if set then 1 <<< position else 0

/-- The word with the state of the port. -/
def status (p : Port) : UInt16 := bit 1 p.enabled ||| bit 2 p.suspended ||| bit 8 p.powered

/-- The word with what has changed. -/
def change (p : Port) : UInt16 :=
  bit 1 p.enableChanged ||| bit 2 p.suspendChanged ||| bit 4 p.resetDone

/-- Disables the port. -/
def disable (p : Port) : Port :=
  { p with enabled := false, suspended := false, enableChanged := p.enableChanged || p.enabled }

/-- Asks to enable the port, which is refused, or to disable it. -/
def setEnabled (p : Port) (on : Bool) : Port := if on then p else p.disable

/-- Suspends a port that is enabled and powered, or resumes any port. -/
def setSuspended (p : Port) (on : Bool) : Port :=
  if on && !(p.enabled && p.powered) then p
  else { p with suspended := on, suspendChanged := p.suspendChanged || (on != p.suspended) }

/-- Switches the power; a port without power is disabled. -/
def setPowered (p : Port) (on : Bool) : Port :=
  let p := { p with powered := on }
  if on then p else p.disable

/-- Resets the port, which is over at once. -/
def reset (p : Port) : Port := { p.disable with resetDone := true }

/-- Sets or clears a feature of the port, if it has that feature. -/
def applyFeature? (p : Port) (feature : UInt16) (on : Bool) : Option Port :=
  if feature = PortFeature.enable then some (p.setEnabled on)
  else if feature = PortFeature.suspend then some (p.setSuspended on)
  else if feature = PortFeature.power then some (p.setPowered on)
  else if on then
    if feature = PortFeature.reset then some p.reset else none
  else if feature = PortFeature.connectionChange ∨ feature = PortFeature.overCurrentChange then
    some p
  else if feature = PortFeature.enableChange then some { p with enableChanged := false }
  else if feature = PortFeature.suspendChange then some { p with suspendChanged := false }
  else if feature = PortFeature.resetChange then some { p with resetDone := false }
  else none

/-- Sets or clears a feature; one that the port does not have changes nothing. -/
def applyFeature (p : Port) (feature : UInt16) (on : Bool) : Port :=
  (p.applyFeature? feature on).getD p

end Port
end Hub
end UsbGadget
