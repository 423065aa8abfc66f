/-
# The transport

What a device asks of the bus, and a transport that records it.  The transport
refuses traffic until it is connected, and data on an endpoint number above 15;
a refused call leaves no trace.

* `perform` carries out one call;
* `log` holds the calls that were carried out, the oldest first;
* `stallCount`, `sentOn` and `lastReply?` read the log.
-/

import UsbGadget.Bytes

namespace UsbGadget

/-- Why a transport refuses a call. -/
inductive TransportError where
  | notConnected
  | noSuchEndpoint (endpoint : UInt8)
  deriving DecidableEq, Repr

/-- The wording of a refusal. -/
def TransportError.message : TransportError → String
  | notConnected => "transport is not connected"
  | noSuchEndpoint ep => "endpoint " ++ toString ep.toNat ++ " is not available on this transport"

/-- One call to the transport. -/
inductive Call where
  | connect
  | disconnect
  | send (endpoint : UInt8) (data : Bytes)
  | stall
  | acknowledge
  deriving DecidableEq, Repr

/-- A transport that records its calls. -/
structure Transport where
  connected : Bool := false
  log : List Call := []
  deriving DecidableEq, Repr

namespace Transport

/-- The highest endpoint number that four bits hold. -/
def maxEndpoint : UInt8 := 15

/-- Why the transport refuses a call, if it does. -/
def refusal? (t : Transport) : Call → Option TransportError
  | .connect | .disconnect => none
  | .send ep _ =>
    if !t.connected then some .notConnected
    else if maxEndpoint < ep then some (.noSuchEndpoint ep)
    else none
  | .stall | .acknowledge => if !t.connected then some .notConnected else none

/-- Whether the transport is connected after a call. -/
def connectedAfter (t : Transport) : Call → Bool
  | .connect => true
  | .disconnect => false
  | _ => t.connected

/-- The transport after a call that it does not refuse. -/
def record (t : Transport) (c : Call) : Transport := ⟨t.connectedAfter c, t.log ++ [c]⟩

/-- Carries out a call: the transport afterwards, and why the call was refused if it was. -/
def perform (t : Transport) (c : Call) : Transport × Option TransportError :=
  match t.refusal? c with
  | some e => (t, some e)
  | none => (t.record c, none)

/-- The transport after a call, whether it was refused or not. -/
def attempt (t : Transport) (c : Call) : Transport := (t.perform c).1

/-- How many stalls the log holds. -/
def stallCount (t : Transport) : Nat := t.log.count .stall

/-- The data of one call, if it is a send on the endpoint. -/
def dataOn? (ep : UInt8) : Call → Option Bytes
  | .send e data => if e = ep then some data else none
  | _ => none

/-- The data sent on an endpoint, in order. -/
def sentOn (t : Transport) (ep : UInt8) : List Bytes := t.log.filterMap (dataOn? ep)

/-- The latest reply on the control endpoint. -/
def lastReply? (t : Transport) : Option Bytes := (t.sentOn 0).getLast?

end Transport
end UsbGadget
