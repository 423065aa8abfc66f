/-
# Traffic on endpoints

What an endpoint does with data from the host, and when the host has room for
data: nothing, collect lines, send the same frame every time, or something of a
device's own making, whose state is a number.
-/

import UsbGadget.Cdc.Lines
import UsbGadget.Link
import UsbGadget.Speed

namespace UsbGadget

/-- Serves traffic over a number. -/
structure CustomTraffic where
  state : Nat := 0
  onData : Speed → Bytes → Link → Nat → Answer Nat
  onBuffer : Speed → Link → Nat → Answer Nat

/-- What an endpoint does with its traffic. -/
inductive TrafficHandler where
  | silent
  | receiver (lines : Cdc.LineReceiver)
  | responder (endpoint : UInt8) (frame : Bytes)
  | custom (traffic : CustomTraffic)

namespace TrafficHandler

/-- Takes in data from the host. -/
def receive (speed : Speed) (data : Bytes) (link : Link) : TrafficHandler → Answer TrafficHandler
  | silent => ⟨silent, link, none⟩
  | receiver lines => ⟨receiver (lines.receive data), link, none⟩
  | responder ep frame => ⟨responder ep frame, link, none⟩
  | custom t => (t.onData speed data link t.state).map fun n => custom { t with state := n }

/-- Learns that the host has room for data. -/
def offer (speed : Speed) (link : Link) : TrafficHandler → Answer TrafficHandler
  | silent => ⟨silent, link, none⟩
  | receiver lines => ⟨receiver lines, link, none⟩
  | responder ep frame => link.send ep frame (responder ep frame)
  | custom t => (t.onBuffer speed link t.state).map fun n => custom { t with state := n }

/-- The lines that have come in. -/
def lines : TrafficHandler → List String
  | receiver r => r.lines
  | _ => []

end TrafficHandler
end UsbGadget
