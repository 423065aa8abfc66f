/-
# The link to host and application

Whatever serves a request does so over a link: the transport on one side, the
application on the other.  An `Answer` is what is left when it is done: its own
state, the link, and the failure if there was one.

* `Link.send`, `reply`, `replyEmpty`, `stall`, `acknowledge` make one call each, and keep the
  state that they are made with (`state_call`);
* `Link.signal` tells the application that the host used the function;
* `Link.emit` builds a descriptor, with the application's replacements.
-/

import UsbGadget.Descriptor.Layout
import UsbGadget.Request

namespace UsbGadget

/-- The transport, the application and what it has been told. -/
structure Link where
  transport : Transport := {}
  app : Application := {}
  history : List Callback := []

/-- What is left when something has been served. -/
structure Answer (σ : Type) where
  state : σ
  link : Link
  failure : Option UsbError := none

/-- The answer of a whole whose part gave this answer. -/
def Answer.map {σ τ : Type} (f : σ → τ) (a : Answer σ) : Answer τ := ⟨f a.state, a.link, a.failure⟩

namespace Answer

variable {σ τ υ : Type}

@[simp] theorem state_map (f : σ → τ) (a : Answer σ) : (a.map f).state = f a.state := rfl

@[simp] theorem link_map (f : σ → τ) (a : Answer σ) : (a.map f).link = a.link := rfl

@[simp] theorem failure_map (f : σ → τ) (a : Answer σ) : (a.map f).failure = a.failure := rfl

/-- What an answer leaves behind outside of the state that it is about. -/
def outcome (a : Answer σ) : Link × Option UsbError := (a.link, a.failure)

@[simp] theorem outcome_map (f : σ → τ) (a : Answer σ) : (a.map f).outcome = a.outcome := rfl

/-- Mapping the state twice is mapping it once. -/
theorem map_map (g : τ → υ) (f : σ → τ) (a : Answer σ) : (a.map f).map g = a.map (g ∘ f) := rfl

end Answer

namespace Link

variable {σ : Type}

/-- Tells the application something. -/
def note (link : Link) (c : Callback) : Link := { link with history := link.history ++ [c] }

/-- Tells the application that the host used the function. -/
def signal (link : Link) (reason : String) : Link := link.note (.supported reason)

/-- Makes one call to the transport and answers with the given state. -/
def call (link : Link) (c : Call) (state : σ) : Answer σ :=
  let (transport, refusal) := link.transport.perform c
  ⟨state, { link with transport := transport }, refusal.map .transport⟩

/-- Sends data on an endpoint. -/
def send (link : Link) (ep : UInt8) (data : Bytes) (state : σ) : Answer σ :=
  link.call (.send ep data) state

/-- Answers an IN request with data, of which the host takes at most `length` bytes. -/
def reply (link : Link) (r : Request) (data : Bytes) (state : σ) : Answer σ :=
  link.send 0 (data.take r.length.toNat) state

/-- Answers with no data. -/
def replyEmpty (link : Link) (state : σ) : Answer σ := link.send 0 [] state

/-- Refuses the request. -/
def stall (link : Link) (state : σ) : Answer σ := link.call .stall state

/-- Acknowledges the status stage of an OUT request. -/
def acknowledge (link : Link) (state : σ) : Answer σ := link.call .acknowledge state

/-- A call that nothing refuses is made: the transport takes it and the state stays. -/
theorem call_of_refusal?_eq_none {link : Link} {c : Call}
    (h : link.transport.refusal? c = none) (s : σ) :
    link.call c s = ⟨s, { link with transport := link.transport.record c }, none⟩ := by
  rw [call, Transport.perform, h]
  rfl

/-- A call that is refused fails and changes nothing. -/
theorem call_of_refusal?_eq_some {link : Link} {c : Call} {cause : TransportError}
    (h : link.transport.refusal? c = some cause) (s : σ) :
    link.call c s = ⟨s, link, some (.transport cause)⟩ := by
  rw [call, Transport.perform, h]
  rfl

/-- What a call comes to, whether it is refused or not. -/
theorem call_eq (link : Link) (c : Call) (s : σ) :
    link.call c s =
      ⟨s, { link with transport := link.transport.attempt c },
        (link.transport.refusal? c).map .transport⟩ := by
  rw [call, Transport.attempt, Transport.perform]
  cases link.transport.refusal? c <;> rfl

/-- A call keeps the state that it is made with, whether it is refused or not. -/
@[simp] theorem state_call (link : Link) (c : Call) (s : σ) : (link.call c s).state = s := rfl

@[simp] theorem state_send (link : Link) (ep : UInt8) (data : Bytes) (s : σ) :
    (link.send ep data s).state = s := link.state_call _ s

@[simp] theorem state_reply (link : Link) (r : Request) (data : Bytes) (s : σ) :
    (link.reply r data s).state = s := link.state_call _ s

@[simp] theorem state_replyEmpty (link : Link) (s : σ) : (link.replyEmpty s).state = s :=
  link.state_call _ s

@[simp] theorem state_stall (link : Link) (s : σ) : (link.stall s).state = s := link.state_call _ s

@[simp] theorem state_acknowledge (link : Link) (s : σ) : (link.acknowledge s).state = s :=
  link.state_call _ s

/-- Builds a descriptor. -/
def emit (link : Link) (l : Layout) : Bytes × Link :=
  let (bytes, m) := l.emit ⟨some link.app, link.history⟩
  (bytes, { link with history := m.history })

end Link
end UsbGadget
