/-
# Class requests of a serial line

| code | request | answer |
| ---: | --- | --- |
| `20` | set line coding | acknowledged if the coding is valid, a failure otherwise |
| `21` | get line coding | the seven bytes of the coding |
| `22` | set control line state | acknowledged, the value is kept |
| `23` | send break | acknowledged |

Every request that is served signals that the host used the function.
-/

import UsbGadget.Cdc.LineCoding
import UsbGadget.ClassHandler

namespace UsbGadget
namespace Cdc

namespace RequestCode

def setLineCoding : UInt8 := 0x20
def getLineCoding : UInt8 := 0x21
def setControlLineState : UInt8 := 0x22
def sendBreak : UInt8 := 0x23

end RequestCode

/-- What the host has set: the line coding, and the control lines with DTR in bit 0 and RTS in
bit 1. -/
structure State where
  lineCoding : LineCoding := {}
  controlLines : UInt16 := 0
  deriving DecidableEq, Repr

/-- Keeps a valid line coding; fails on any other, and on a data stage that is too short. -/
def setLineCoding : Handler State := fun _ r link s =>
  match LineCoding.ofBytes? r.data with
  | none => ⟨s, link, some (.shortDataStage r.code LineCoding.size r.data.length)⟩
  | some coding =>
    if coding.IsValid then
      (link.signal "cdc set line coding").acknowledge { s with lineCoding := coding }
    else
      ⟨s, link, some (.handler "cdc" r.code ("invalid line coding " ++ coding.describe))⟩

/-- Replies with the line coding. -/
def getLineCoding : Handler State := fun _ r link s =>
  (link.signal "cdc get line coding").reply r s.lineCoding.toBytes s

/-- Keeps the state of the control lines. -/
def setControlLineState : Handler State := fun _ r link s =>
  (link.signal "cdc set control line state").acknowledge { s with controlLines := r.value }

/-- Acknowledges a break. -/
def sendBreak : Handler State := fun _ _ link s =>
  (link.signal "cdc send break").acknowledge s

/-- The requests of a serial line. -/
def requests : RequestTable State where
  entries := .ofList
    [(RequestCode.setLineCoding, setLineCoding), (RequestCode.getLineCoding, getLineCoding),
      (RequestCode.setControlLineState, setControlLineState), (RequestCode.sendBreak, sendBreak)]
  default := Handler.serviced

/-- The class handler of a serial line. -/
def handler (s : State) : ClassHandler State := { name := "cdc", requests := requests, state := s }

end Cdc
end UsbGadget
