/-
# Every handler answers once

A control request is answered by one call to the transport: a stall, an
acknowledgement of the status stage, or data on endpoint 0, of which there is no
more than the host takes.  On the way the application may be told things, but
not that a SETUP packet came in.

Over a connected transport every handler of every table answers once
(`Handler.Answers`): those of a device, an interface, an endpoint, a hub and a
billboard, and the default of a handler of one's own making.  The exception is a
serial line, which fails on a line coding that it cannot take, and then makes no
call and tells nothing (`Cdc.answered_or_rejects`).
-/

import Mathlib.Tactic.SplitIfs
import UsbGadget.Profile.Registry
import UsbGadget.Proofs.Conversation
import UsbGadget.Proofs.Session

namespace UsbGadget

/-- A call that answers a control request. -/
def Call.Answers (r : Request) : Call → Prop
  | stall | acknowledge => True
  | send ep data => ep = 0 ∧ data.length ≤ r.length.toNat
  | connect | disconnect => False

/-- All that an answer can be refused for is that the transport is not connected. -/
theorem Call.Answers.refusal?_eq {r : Request} {c : Call} (h : c.Answers r) (t : Transport) :
    t.refusal? c = if t.connected then none else some .notConnected := by
  unfold Transport.refusal?
  cases c with
  | send ep data =>
    obtain ⟨rfl, -⟩ := h
    cases t.connected <;> rfl
  | stall => cases t.connected <;> rfl
  | acknowledge => cases t.connected <;> rfl
  | connect => exact h.elim
  | disconnect => exact h.elim

/-- The application was told more, but not that a SETUP packet came in. -/
def Callback.Extends (before after : List Callback) : Prop :=
  ∃ told, setupReceived ∉ told ∧ after = before ++ told

namespace Callback

/-- A history extends itself. -/
theorem extends_refl (history : List Callback) : Extends history history :=
  ⟨[], List.not_mem_nil, (List.append_nil history).symm⟩

/-- A history is extended by callbacks that announce no SETUP packet. -/
theorem extends_append {told : List Callback} (h : ∀ c ∈ told, c ≠ setupReceived)
    (history : List Callback) : Extends history (history ++ told) :=
  ⟨told, fun hmem => h _ hmem rfl, rfl⟩

/-- Histories that extend one another extend the first of them. -/
theorem Extends.trans {a b c : List Callback} (hab : Extends a b) (hbc : Extends b c) :
    Extends a c := by
  obtain ⟨told, htold, rfl⟩ := hab
  obtain ⟨more, hmore, rfl⟩ := hbc
  refine ⟨told ++ more, ?_, List.append_assoc ..⟩
  rw [List.mem_append, not_or]
  exact ⟨htold, hmore⟩

end Callback

namespace Link

/-- Between the two links no call was made, and no SETUP packet came in. -/
structure Told (before after : Link) : Prop where
  transport : after.transport = before.transport
  history : Callback.Extends before.history after.history

/-- A request was answered over the link: nothing failed, and one call was made. -/
structure Answered (link : Link) (r : Request) (outcome : Link × Option UsbError) : Prop where
  failure : outcome.2 = none
  transport : ∃ c : Call, c.Answers r ∧ outcome.1.transport = link.transport.record c
  history : Callback.Extends link.history outcome.1.history

/-- A signal is told and makes no call. -/
theorem told_signal (link : Link) (reason : String) : link.Told (link.signal reason) := by
  refine ⟨rfl, Callback.extends_append ?_ _⟩
  intro c hc
  rw [List.mem_singleton.1 hc]
  exact Callback.noConfusion

/-- While a descriptor is built, the application is only asked. -/
theorem told_emit (link : Link) (l : Layout) : link.Told (link.emit l).2 := by
  obtain ⟨qs, bytes, ⟨hemit, -⟩, -⟩ := Layout.exists_builds link.app l link.history
  rw [Layout.emitAll_singleton] at hemit
  rw [emit, hemit]
  refine ⟨rfl, Callback.extends_append ?_ _⟩
  intro c hc
  obtain ⟨q, -, rfl⟩ := List.mem_map.1 hc
  exact Callback.noConfusion

variable {link after : Link} {r : Request} {outcome : Link × Option UsbError}

/-- What is told can be followed by more. -/
theorem Told.trans {last : Link} (h : link.Told after) (hlast : after.Told last) :
    link.Told last :=
  ⟨hlast.transport.trans h.transport, h.history.trans hlast.history⟩

/-- Telling the application something leaves the connection as it is. -/
theorem Told.connected (h : link.Told after) (hconnected : link.transport.connected = true) :
    after.transport.connected = true := by
  rw [h.transport]
  exact hconnected

/-- What is told before the answer does not count. -/
theorem Told.answered (htold : link.Told after) (h : after.Answered r outcome) :
    link.Answered r outcome where
  failure := h.failure
  transport := htold.transport ▸ h.transport
  history := htold.history.trans h.history

/-- What is told after the answer does not count either. -/
theorem Answered.told (h : link.Answered r outcome) (htold : outcome.1.Told after) :
    link.Answered r (after, none) where
  failure := rfl
  transport := htold.transport ▸ h.transport
  history := h.history.trans htold.history

/-- An answer does not connect the transport, and does not disconnect it. -/
theorem Answered.connected (h : link.Answered r outcome) :
    outcome.1.transport.connected = link.transport.connected := by
  obtain ⟨c, hc, htransport⟩ := h.transport
  rw [htransport]
  cases c with
  | connect => exact hc.elim
  | disconnect => exact hc.elim
  | _ => rfl

section

variable {σ : Type} (hconnected : link.transport.connected = true)
include hconnected

/-- A call that answers is carried out. -/
theorem call_of_connected {c : Call} (hc : c.Answers r) (s : σ) :
    link.call c s = ⟨s, { link with transport := link.transport.record c }, none⟩ := by
  have hrefusal : link.transport.refusal? c = none := by
    rw [hc.refusal?_eq, if_pos hconnected]
  exact call_of_refusal?_eq_none hrefusal s

/-- Of the data that a reply is made with, the host gets what it takes. -/
theorem reply_of_connected (r : Request) (data : Bytes) (s : σ) :
    link.reply r data s =
      ⟨s, { link with transport := link.transport.record (.send 0 (data.take r.length.toNat)) },
        none⟩ :=
  call_of_connected hconnected (r := r) (c := .send 0 _) ⟨rfl, List.length_take_le _ _⟩ s

/-- A call that answers a request answers it. -/
theorem answered_call {c : Call} (hc : c.Answers r) (s : σ) :
    link.Answered r (link.call c s).outcome := by
  rw [call_of_connected hconnected hc]
  exact ⟨rfl, ⟨c, hc, rfl⟩, Callback.extends_refl _⟩

/-- A reply answers a request. -/
theorem answered_reply (r : Request) (data : Bytes) (s : σ) :
    link.Answered r (link.reply r data s).outcome :=
  answered_call hconnected (c := .send 0 _) ⟨rfl, List.length_take_le _ _⟩ s

/-- A reply with no data answers a request. -/
theorem answered_replyEmpty (r : Request) (s : σ) :
    link.Answered r (link.replyEmpty s).outcome :=
  answered_call hconnected (c := .send 0 []) ⟨rfl, Nat.zero_le _⟩ s

/-- A stall answers a request. -/
theorem answered_stall (r : Request) (s : σ) : link.Answered r (link.stall s).outcome :=
  answered_call hconnected (c := .stall) trivial s

/-- An acknowledgement answers a request. -/
theorem answered_acknowledge (r : Request) (s : σ) :
    link.Answered r (link.acknowledge s).outcome :=
  answered_call hconnected (c := .acknowledge) trivial s

end

end Link

/-- Over a connected transport the handler answers every request once. -/
def Handler.Answers {σ : Type} (h : Handler σ) : Prop :=
  ∀ (speed : Speed) (r : Request) (link : Link) (s : σ), link.transport.connected = true →
    link.Answered r (h speed r link s).outcome

namespace Handler

variable {σ : Type}

/-- Refusing every request answers it. -/
theorem answers_stall : (stall (σ := σ)).Answers := fun _ r _ s h => Link.answered_stall h r s

/-- Replying with no data answers every request, whatever becomes of the state. -/
theorem answers_replyEmpty (step : Request → σ → σ) :
    Answers fun _ r link s => link.replyEmpty (step r s) :=
  fun _ r _ s h => Link.answered_replyEmpty h r (step r s)

/-- Replying answers every request. -/
theorem answers_reply (data : Request → σ → Bytes) :
    Answers fun _ r link s => link.reply r (data r s) s :=
  fun _ r _ s h => Link.answered_reply h r (data r s) s

/-- Acknowledging answers every request, whatever becomes of the state. -/
theorem answers_acknowledge (step : Request → σ → σ) :
    Answers fun _ r link s => link.acknowledge (step r s) :=
  fun _ r _ s h => Link.answered_acknowledge h r (step r s)

/-- A handler that answers still does when a signal goes before it. -/
theorem Answers.signal {h : Handler σ} (ha : h.Answers) (reason : String) :
    Answers fun speed r link s => h speed r (link.signal reason) s := by
  intro speed r link s hconnected
  have htold := link.told_signal reason
  exact htold.answered (ha speed r _ s (htold.connected hconnected))

/-- Replying with no data and signalling answers every request. -/
theorem answers_serviced : (serviced (σ := σ)).Answers := by
  intro speed r link s hconnected
  have h := Link.answered_replyEmpty hconnected r s
  have hfailure : (link.replyEmpty s).failure = none := h.failure
  unfold serviced
  simp only [hfailure]
  exact h.told (Link.told_signal _ _)

end Handler

namespace StandardRequests

/-- Every request for a descriptor is answered. -/
theorem answers_getDescriptor : getDescriptor.Answers := by
  intro speed r link m hconnected
  unfold getDescriptor
  split
  · exact Link.answered_stall hconnected r m
  · next layout _ =>
    have htold := link.told_emit layout
    exact htold.answered (Link.answered_reply (htold.connected hconnected) r _ m)

/-- Every request to select a configuration is answered. -/
theorem answers_setConfiguration : setConfiguration.Answers := by
  intro speed r link m hconnected
  unfold setConfiguration
  split
  · exact Link.answered_acknowledge hconnected r _
  · exact Link.answered_stall hconnected r m

/-- Every request for an alternate setting is answered. -/
theorem answers_getInterface : getInterface.Answers := by
  intro speed r link m hconnected
  unfold getInterface
  split
  · exact Link.answered_reply hconnected r _ m
  · exact Link.answered_stall hconnected r m

/-- The standard requests to a device are answered once. -/
theorem answers_lookup (code : UInt8) : (requests.lookup code).Answers := by
  have hempty := Handler.answers_replyEmpty fun _ (m : Model) => m
  refine RequestTable.lookup_ofList hempty ?_ code
  simp only [List.forall_mem_cons]
  exact ⟨Handler.answers_reply _, Handler.answers_acknowledge _, Handler.answers_acknowledge _,
    Handler.answers_acknowledge _, answers_getDescriptor, Handler.answers_stall,
    Handler.answers_reply _, answers_setConfiguration, answers_getInterface, hempty,
    Handler.answers_stall, Handler.answers_reply _, List.forall_mem_nil _⟩

end StandardRequests

/-- A billboard answers the request for a descriptor once. -/
theorem BillboardProfile.answers_getDescriptor : BillboardProfile.getDescriptor.Answers := by
  intro speed r link m hconnected
  unfold BillboardProfile.getDescriptor
  split
  · exact Link.answered_stall hconnected r m
  · next layout _ =>
    have htold : link.Told (if r.descriptorType = DescriptorType.objectStore
        then (link.emit layout).2.signal "billboard BOS requested" else (link.emit layout).2) := by
      split
      · exact (link.told_emit layout).trans (Link.told_signal _ _)
      · exact link.told_emit layout
    exact htold.answered (Link.answered_reply (htold.connected hconnected) r _ m)

/-- The standard requests to an interface are answered once. -/
theorem Interface.State.answers_lookup (code : UInt8) :
    (Interface.State.requests.lookup code).Answers := by
  have hdescriptor : getDescriptor.Answers := by
    intro speed r link s hconnected
    unfold getDescriptor
    split
    · exact Link.answered_reply hconnected r _ s
    · exact Link.answered_stall hconnected r s
  have hempty := Handler.answers_replyEmpty fun _ (s : Interface.State) => s
  refine RequestTable.lookup_ofList hempty ?_ code
  simp only [List.forall_mem_cons]
  exact ⟨Handler.answers_reply _, hdescriptor, Handler.answers_reply _, hempty,
    List.forall_mem_nil _⟩

/-- The standard requests to an endpoint are answered once. -/
theorem Endpoint.Status.answers_lookup (code : UInt8) :
    (Endpoint.Status.requests.lookup code).Answers := by
  refine RequestTable.lookup_ofList (Handler.answers_replyEmpty fun _ s => s) ?_ code
  simp only [List.forall_mem_cons]
  exact ⟨Handler.answers_reply _, Handler.answers_replyEmpty _, Handler.answers_replyEmpty _,
    List.forall_mem_nil _⟩

/-- The class requests of a hub are answered once. -/
theorem Hub.answers_lookup (code : UInt8) : (Hub.requests.lookup code).Answers := by
  have hstatus : Hub.getStatus.Answers := by
    intro speed r link s hconnected
    unfold Hub.getStatus
    split
    · split
      · exact Link.answered_stall hconnected r s
      · exact Link.answered_reply hconnected r _ s
    · exact Link.answered_reply hconnected r _ s
  have hdescriptor : Hub.getDescriptor.Answers := by
    intro speed r link s hconnected
    have htold := (link.told_emit Hub.descriptorLayout).trans
      (Link.told_signal _ "hub descriptor requested")
    exact htold.answered (Link.answered_reply (htold.connected hconnected) r _ s)
  have hfeature : ∀ on, (Hub.changeFeature on).Answers := by
    intro on speed r link s hconnected
    unfold Hub.changeFeature
    split
    · split
      · exact Link.answered_stall hconnected r s
      · exact Link.answered_acknowledge hconnected r _
    · exact Link.answered_acknowledge hconnected r s
  refine RequestTable.lookup_ofList Handler.answers_serviced ?_ code
  simp only [List.forall_mem_cons]
  exact ⟨hstatus, hdescriptor, hfeature true, hfeature false, List.forall_mem_nil _⟩

namespace Cdc

/-- The request sets a line coding that a serial line cannot take: the data stage is too short for
one, or its values have no meaning. -/
def Rejects (r : Request) : Prop :=
  r.code = RequestCode.setLineCoding ∧
    ∀ coding, LineCoding.ofBytes? r.data = some coding → ¬ coding.IsValid

/-- Every request but the one to set the line coding is answered once. -/
theorem answers_lookup_of_ne {code : UInt8} (hcode : code ≠ RequestCode.setLineCoding) :
    (requests.lookup code).Answers := by
  refine RequestTable.lookup_of_forall Handler.answers_serviced ?_
  intro e he hecode
  have hlisted := Table.mem_ofList he
  simp only [List.mem_cons, List.not_mem_nil, or_false] at hlisted
  rcases hlisted with rfl | rfl | rfl | rfl
  · exact absurd hecode.symm hcode
  · have h := Handler.answers_reply fun _ (s : State) => s.lineCoding.toBytes
    exact h.signal _
  · have h := Handler.answers_acknowledge fun r (s : State) => { s with controlLines := r.value }
    exact h.signal _
  · have h := Handler.answers_acknowledge fun _ (s : State) => s
    exact h.signal _

/-- A request to set the line coding is answered, or rejected for the coding that it carries. -/
theorem setLineCoding_answered_or_rejects {link : Link}
    (hconnected : link.transport.connected = true) (speed : Speed) (r : Request) (s : State) :
    link.Answered r (setLineCoding speed r link s).outcome ∨
      (∀ coding, LineCoding.ofBytes? r.data = some coding → ¬ coding.IsValid) ∧
        ∃ e, (setLineCoding speed r link s).outcome = (link, some e) := by
  unfold setLineCoding
  split
  · next hnone =>
    right
    refine ⟨?_, _, rfl⟩
    intro coding hsome
    rw [hnone] at hsome
    cases hsome
  · next coding hcoding =>
    split_ifs with hvalid
    · left
      have htold := link.told_signal "cdc set line coding"
      exact htold.answered (Link.answered_acknowledge (htold.connected hconnected) r _)
    · right
      refine ⟨?_, _, rfl⟩
      intro other hother
      rw [hcoding] at hother
      cases hother
      exact hvalid

/-- A serial line answers every request once, except for a line coding that it cannot take: on that
it fails, with no call made and nothing told. -/
theorem answered_or_rejects {link : Link} (hconnected : link.transport.connected = true)
    (speed : Speed) (r : Request) (s : State) :
    link.Answered r (requests.dispatch speed r link s).outcome ∨
      Rejects r ∧ ∃ e, (requests.dispatch speed r link s).outcome = (link, some e) := by
  unfold RequestTable.dispatch
  by_cases hcode : r.code = RequestCode.setLineCoding
  · have hlookup : requests.lookup r.code = setLineCoding := by
      rw [hcode]
      rfl
    rw [hlookup]
    refine (setLineCoding_answered_or_rejects hconnected speed r s).imp_right ?_
    rintro ⟨hdata, hfailed⟩
    exact ⟨⟨hcode, hdata⟩, hfailed⟩
  · exact .inl (answers_lookup_of_ne hcode speed r link s hconnected)

end Cdc

namespace FunctionHandler

/-- The handler is that of a serial line. -/
def IsCdc : FunctionHandler → Prop
  | cdc _ => True
  | _ => False

/-- The handler is that of a serial line or of a hub, or one that has no requests of its own. -/
def IsStock : FunctionHandler → Prop
  | custom h => h.requests = { default := Handler.serviced }
  | _ => True

/-- A handler answers every request once, except for a line coding that it rejects. -/
theorem answered_or_rejects {h : FunctionHandler} (hstock : h.IsStock) {link : Link}
    (hconnected : link.transport.connected = true) (speed : Speed) (r : Request) :
    link.Answered r (h.serve speed r link).outcome ∨
      h.IsCdc ∧ Cdc.Rejects r ∧ ∃ e, (h.serve speed r link).outcome = (link, some e) := by
  cases h with
  | cdc s =>
    refine (Cdc.answered_or_rejects hconnected speed r s).imp_right ?_
    rintro ⟨hrejects, hfailed⟩
    exact ⟨trivial, hrejects, hfailed⟩
  | hub s => exact .inl (Hub.answers_lookup r.code speed r link s hconnected)
  | custom h =>
    left
    have hlookup : h.requests.lookup r.code = Handler.serviced := by
      rw [show h.requests = { default := Handler.serviced } from hstock]
      rfl
    show link.Answered r (h.requests.lookup r.code speed r link h.state).outcome
    rw [hlookup]
    exact Handler.answers_serviced speed r link h.state hconnected

end FunctionHandler
end UsbGadget
