/-
# Ready-made reactions

Handlers for devices of one's own making.  A `Reaction` serves a request in one
of a few simple ways; the only thing that it has to know of the state is how it
advances.  The two kinds of traffic send data back where they are told, or fail.
-/

import UsbGadget.RequestTable
import UsbGadget.TrafficHandler

namespace UsbGadget

/-- A simple way to serve a request. -/
inductive Reaction where
  | empty
  | stall
  | acknowledge
  | ignore
  | echo
  | speed
  | signal (reason : String)
  | forward
  | build (stage : Stage) (canonical : Bytes)
  | fail (name reason : String)
  | advance
  deriving DecidableEq, Repr

namespace Reaction

/-- The handler of a reaction over a state that advances in the given way: `advance` replies with
the bytes that the step gives, `forward` sends the data on the endpoint in the low byte of the
value. -/
def handler {σ : Type} (step : σ → Bytes × σ) : Reaction → Handler σ
  | empty => Handler.replyEmpty
  | stall => Handler.stall
  | acknowledge => fun _ _ link s => link.acknowledge s
  | ignore => fun _ _ link s => ⟨s, link, none⟩
  | echo => fun _ r link s => link.reply r r.data s
  | speed => fun speed r link s => link.reply r [if speed = .high then 1 else 0] s
  | signal reason => fun _ _ link s => (link.signal reason).replyEmpty s
  | forward => fun _ r link s => link.send r.value.toUInt8 r.data s
  | build stage canonical => fun _ r link s =>
    let (bytes, link) := link.emit (.leaf stage canonical)
    link.reply r bytes s
  | fail name reason => fun _ r link s => ⟨s, link, some (.handler name r.code reason)⟩
  | advance => fun _ r link s =>
    let (bytes, s) := step s
    link.reply r bytes s

/-- A counter of 32 bits goes up by one and shows its low byte. -/
def count (n : Nat) : Bytes × Nat :=
  let n := (n + 1) % (1 <<< 32)
  ([UInt8.ofNat n], n)

end Reaction

namespace CustomTraffic

/-- Sends data back on an endpoint, and when there is room a count of one byte. -/
def echo (ep : UInt8) : CustomTraffic where
  onData _ data link n := link.send ep data n
  onBuffer _ link n :=
    let n := (n + 1) % 256
    link.send ep [UInt8.ofNat n] n

/-- Fails on data, of which it always expects more, and when there is room. -/
def failing (expected : Nat) (name reason : String) : CustomTraffic where
  onData _ data link n := ⟨n, link, some (.shortDataStage 0 expected data.length)⟩
  onBuffer _ link n := ⟨n, link, some (.handler name 255 reason)⟩

end CustomTraffic
end UsbGadget
