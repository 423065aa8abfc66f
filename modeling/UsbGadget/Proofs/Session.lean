/-
# Sessions

What happens to a device is a list of actions: it is connected, disconnected,
asked whether to stop, or takes in what the host does.  `Device.after` is the
device after such a list, whatever failed on the way.

A request changes a model in one of two ways: the device's own table serves it,
or a part of the active configuration does, which keeps the shape of the model
(`model_handleRequest`).  Traffic keeps the shape as well.  So what the shape
determines, what does not depend on the state of the connection, and what the
device's own table keeps, holds after every list of actions (`Lasting.after`).
What a run comes to, a list of actions comes to (`exists_after_run`).
`StandardRequests.effect` says what the standard table can change.
-/

import Mathlib.Tactic.SplitIfs
import UsbGadget.Proofs.Serving

namespace UsbGadget

/-- One thing that happens to a device. -/
inductive Action where
  | connect
  | disconnect
  | poll
  | event (event : HostEvent)
  deriving DecidableEq, Repr

/-- The standard requests to a device go to the device itself, and no others do. -/
theorem Request.target_eq_device_iff {r : Request} {policy : Policy} :
    r.target policy = .device ↔ r.kind = .standard ∧ r.recipient = .device := by
  unfold target
  constructor
  · intro h
    split at h
    · next hkind =>
      split at h
      · next hrecipient => exact ⟨hkind, hrecipient⟩
      · cases h
      · cases h
      · unfold OtherRecipientPolicy.target at h
        split at h <;> cases h
      · cases h
    · cases h
    · cases h
    · cases h
  · rintro ⟨hkind, hrecipient⟩
    rw [hkind]
    dsimp only
    rw [hrecipient]

namespace Device

/-- The device after an action, whether it failed or not. -/
def act (d : Device) : Action → Device
  | .connect => d.connect
  | .disconnect => d.disconnect
  | .poll => d.pollStop.2
  | .event e => (d.handleEvent e).1

/-- The device after a list of actions. -/
def after (d : Device) (actions : List Action) : Device := actions.foldl act d

/-! ### What a step does to the model -/

/-- A request that does not go to the device itself keeps the shape of the model. -/
theorem shape_serve? {requests : RequestTable Model} {target : Target} {r : Request} {link : Link}
    {m : Model} {answer : Answer Model} (htarget : target ≠ .device)
    (h : serve? requests target r link m = some answer) : answer.state.shape = m.shape := by
  cases target with
  | device => exact absurd rfl htarget
  | interface position =>
    exact Model.shape_serveInterface? (Interface.shape_serve m.speed r link) h
  | endpoint number => exact Model.shape_serveEndpoint? (Endpoint.shape_serve m.speed r link) h
  | function kind => exact Model.shape_serveFunction? h
  | nobody => cases h

/-- The device's own table serves what goes to the device. -/
theorem handleRequest_of_target_eq_device {d : Device} {r : Request}
    (h : r.target d.model.policy = .device) :
    d.handleRequest r =
      d.afterAnswer (d.requests.dispatch d.model.speed r (d.link.note .setupReceived) d.model) := by
  rw [handleRequest, h]
  rfl

/-- What goes elsewhere keeps the shape of the model. -/
theorem shape_handleRequest {d : Device} {r : Request} (h : r.target d.model.policy ≠ .device) :
    (d.handleRequest r).1.model.shape = d.model.shape := by
  show ((serve? d.requests (r.target d.model.policy) r (d.link.note .setupReceived)
    d.model).getD _).state.shape = d.model.shape
  cases hserve : serve? d.requests (r.target d.model.policy) r (d.link.note .setupReceived)
    d.model with
  | none => rw [Option.getD_none, Link.state_stall]
  | some answer => exact shape_serve? h hserve

/-- A request is served by the device's own table, or it keeps the shape of the model. -/
theorem model_handleRequest (d : Device) (r : Request) :
    (d.handleRequest r).1.model =
        (d.requests.dispatch d.model.speed r (d.link.note .setupReceived) d.model).state ∨
      (d.handleRequest r).1.model.shape = d.model.shape := by
  by_cases htarget : r.target d.model.policy = .device
  · left
    rw [handleRequest_of_target_eq_device htarget]
    rfl
  · exact .inr (shape_handleRequest htarget)

/-- Traffic keeps the shape of the model if it keeps those of endpoints. -/
theorem shape_withEndpoint {act : Speed → Link → Endpoint → Answer Endpoint}
    (hact : ∀ speed link ep, (act speed link ep).state.shape = ep.shape) (d : Device)
    (number : UInt8) (note : Link → Link) :
    (d.withEndpoint number act note).1.model.shape = d.model.shape := by
  rw [withEndpoint]
  split
  · split
    · next answer h => exact Model.shape_serveEndpoint? (hact _ _) h
    · rfl
  · rfl

/-- Data that comes in keeps the shape of the model. -/
theorem shape_handleData (d : Device) (number : UInt8) (data : Bytes) :
    (d.handleData number data).1.model.shape = d.model.shape :=
  d.shape_withEndpoint (fun speed link ep => ep.shape_receive speed data link) number _

/-- Room for data keeps the shape of the model. -/
theorem shape_handleBuffer (d : Device) (number : UInt8) :
    (d.handleBuffer number).1.model.shape = d.model.shape :=
  d.shape_withEndpoint (fun speed link ep => ep.shape_offer speed link) number id

/-- An event keeps the shape of the model, or it is a request that the device's own table serves. -/
theorem model_handleEvent (d : Device) (e : HostEvent) :
    (d.handleEvent e).1.model.shape = d.model.shape ∨
      ∃ r, (d.handleEvent e).1.model =
        (d.requests.dispatch d.model.speed r (d.link.note .setupReceived) d.model).state := by
  cases e with
  | setup packet =>
    rw [handleEvent, handleSetup]
    split
    · next r _ =>
      rcases d.model_handleRequest r with hr | hr
      · exact .inr ⟨r, hr⟩
      · exact .inl hr
    · exact .inl rfl
  | data number data => exact .inl (d.shape_handleData number data)
  | bufferAvailable number => exact .inl (d.shape_handleBuffer number)

/-! ### What holds after every list of actions -/

/-- Actions that follow others act on the device that those leave. -/
theorem after_append (d : Device) (actions more : List Action) :
    d.after (actions ++ more) = (d.after actions).after more := List.foldl_append

/-- Traffic does not change the table of requests. -/
theorem requests_withEndpoint (d : Device) (number : UInt8)
    (act : Speed → Link → Endpoint → Answer Endpoint) (note : Link → Link) :
    (d.withEndpoint number act note).1.requests = d.requests := by
  rw [withEndpoint]
  split
  · split <;> rfl
  · rfl

/-- No action changes the table of requests. -/
theorem requests_act (d : Device) (a : Action) : (d.act a).requests = d.requests := by
  cases a with
  | connect => rfl
  | disconnect => rfl
  | poll => rw [act, pollStop]; dsimp only; split <;> rfl
  | event e =>
    cases e with
    | setup packet => rw [act, handleEvent, handleSetup]; split <;> rfl
    | data number data => exact requests_withEndpoint ..
    | bufferAvailable number => exact requests_withEndpoint ..

/-- No actions change the table of requests. -/
theorem requests_after (d : Device) (actions : List Action) :
    (d.after actions).requests = d.requests := by
  induction actions generalizing d with
  | nil => rfl
  | cons a actions ih => exact (ih (d.act a)).trans (d.requests_act a)

/-- A property of models that one action cannot break: the shape determines it, the state of the
connection has no part in it, and the device's own table keeps it. -/
structure Lasting (requests : RequestTable Model) (P : Model → Prop) : Prop where
  shape : ∀ m m' : Model, m'.shape = m.shape → P m → P m'
  state : ∀ (m : Model) (state : DeviceState), P m → P { m with state := state }
  request : ∀ speed r link m, P m → P (requests.dispatch speed r link m).state

variable {P : Model → Prop}

/-- Properties that one action cannot break cannot be broken together. -/
theorem Lasting.and {requests : RequestTable Model} {Q : Model → Prop} (hP : Lasting requests P)
    (hQ : Lasting requests Q) : Lasting requests fun m => P m ∧ Q m where
  shape m m' hshape h := ⟨hP.shape m m' hshape h.1, hQ.shape m m' hshape h.2⟩
  state m state h := ⟨hP.state m state h.1, hQ.state m state h.2⟩
  request speed r link m h := ⟨hP.request speed r link m h.1, hQ.request speed r link m h.2⟩

/-- A property that one action cannot break no request can break. -/
theorem Lasting.handleRequest {d : Device} (hP : Lasting d.requests P) (h : P d.model)
    (r : Request) : P (d.handleRequest r).1.model := by
  rcases d.model_handleRequest r with hserved | hshape
  · rw [hserved]
    exact hP.request _ _ _ _ h
  · exact hP.shape _ _ hshape h

/-- A property that one action cannot break no action can break, whatever it is. -/
theorem Lasting.act {d : Device} (hP : Lasting d.requests P) (h : P d.model) (a : Action) :
    P (d.act a).model := by
  cases a with
  | connect => exact hP.state _ _ h
  | disconnect => exact hP.state _ _ h
  | poll =>
    show P (if d.poll.1 = true then d.poll.2.disconnect else d.poll.2).model
    split
    · exact hP.state _ _ h
    · exact h
  | event e =>
    rcases d.model_handleEvent e with hevent | ⟨r, hevent⟩
    · exact hP.shape _ _ hevent h
    · rw [Device.act, hevent]
      exact hP.request _ _ _ _ h

/-- **What one action cannot break holds after every list of actions.** -/
theorem Lasting.after {d : Device} (hP : Lasting d.requests P) (h : P d.model)
    (actions : List Action) : P (d.after actions).model := by
  induction actions generalizing d with
  | nil => exact h
  | cons a actions ih =>
    refine ih ?_ (hP.act h a)
    -- The table is that of the device before the action.
    rw [requests_act]
    exact hP

/-! ### Runs are lists of actions -/

/-- A poll that asks to stop takes the device off the bus, and any other does nothing more. -/
theorem act_poll (d : Device) :
    d.act .poll = if d.poll.1 = true then d.poll.2.disconnect else d.poll.2 := rfl

/-- Attending to events comes to what some actions come to. -/
theorem exists_after_attend (d : Device) (events : List HostEvent) :
    ∃ actions, (d.attend events).1 = d.after actions := by
  induction events generalizing d with
  | nil =>
    cases hstop : d.poll.1 with
    | true =>
      have hpoll : d.act .poll = d.poll.2.disconnect := by rw [act_poll, if_pos hstop]
      exact ⟨[.poll], hpoll.symm⟩
    | false =>
      have hpoll : d.act .poll = d.poll.2 := by rw [act_poll, hstop, if_neg Bool.false_ne_true]
      exact ⟨[.poll, .disconnect], congrArg disconnect hpoll.symm⟩
  | cons event events ih =>
    cases hstop : d.poll.1 with
    | true =>
      have hpoll : d.act .poll = d.poll.2.disconnect := by rw [act_poll, if_pos hstop]
      rw [attend, show d.poll = (true, d.poll.2) from Prod.ext hstop rfl]
      exact ⟨[.poll], hpoll.symm⟩
    | false =>
      have hpoll : d.act .poll = d.poll.2 := by rw [act_poll, hstop, if_neg Bool.false_ne_true]
      rw [attend, show d.poll = (false, d.poll.2) from Prod.ext hstop rfl]
      dsimp only
      split
      · next d' e hevent =>
        refine ⟨[.poll, .event event], ?_⟩
        show d' = ((d.act .poll).handleEvent event).1
        rw [hpoll, hevent]
      · next d' hevent =>
        obtain ⟨actions, hactions⟩ := ih d'
        refine ⟨.poll :: .event event :: actions, ?_⟩
        show _ = ((d.act .poll).handleEvent event).1.after actions
        rw [hpoll, hevent]
        exact hactions

/-- A run comes to what some list of actions comes to. -/
theorem exists_after_run (d : Device) (events : List HostEvent) :
    ∃ actions, (d.run events).1 = d.after actions := by
  obtain ⟨actions, h⟩ := d.connect.exists_after_attend events
  exact ⟨.connect :: actions, h⟩

end Device

/-! ### What the standard table changes -/

/-- A selection leaves every configuration, or makes one of the model's own the active one. -/
theorem Model.eq_of_selectConfiguration? {m m' : Model} {value : UInt8}
    (h : m.selectConfiguration? value = some m') :
    (value = 0 ∧ m' = m.deconfigure) ∨
      ∃ position c, value ≠ 0 ∧ m.selectedPosition? value = some position ∧
        m.configurations[position]? = some c ∧ m' = m.activate position c := by
  unfold selectConfiguration? at h
  split_ifs at h with hvalue
  · left
    exact ⟨hvalue, (Option.some.inj h).symm⟩
  · right
    obtain ⟨position, hposition, h⟩ := Option.bind_eq_some_iff.1 h
    obtain ⟨c, hc, h⟩ := Option.bind_eq_some_iff.1 h
    exact ⟨position, c, hvalue, hposition, hc, (Option.some.inj h).symm⟩

/-- What a standard request to a device can make of its model. -/
inductive StandardRequests.Effect (m : Model) : Model → Prop where
  | nothing : Effect m m
  | wakeup (on : Bool) : Effect m { m with remoteWakeup := on }
  | address (address : UInt8) : Effect m { m with address := address }
  | select {value : UInt8} {m' : Model} (h : m.selectConfiguration? value = some m') : Effect m m'

namespace StandardRequests

/-- The handler can make no more of a model than a standard request. -/
def HasEffect (h : Handler Model) : Prop := ∀ speed r link m, Effect m (h speed r link m).state

/-- A handler that keeps the model has the effect of a standard request. -/
theorem hasEffect_of_state_eq {h : Handler Model}
    (hstate : ∀ speed r link m, (h speed r link m).state = m) : HasEffect h := by
  intro speed r link m
  rw [hstate]
  exact .nothing

/-- Setting or clearing a feature has the effect of a standard request. -/
theorem hasEffect_changeFeature (on : Bool) : HasEffect (changeFeature on) := by
  intro speed r link m
  rw [changeFeature, Link.state_acknowledge]
  split
  · exact .wakeup on
  · exact .nothing

/-- Setting the address has the effect of a standard request. -/
theorem hasEffect_setAddress : HasEffect setAddress := by
  intro speed r link m
  rw [setAddress, Link.state_acknowledge]
  exact .address _

/-- A request for a descriptor keeps the model. -/
theorem state_getDescriptor (speed : Speed) (r : Request) (link : Link) (m : Model) :
    (getDescriptor speed r link m).state = m := by
  rw [getDescriptor]
  split
  · exact link.state_stall m
  · exact Link.state_reply ..

/-- Selecting a configuration has the effect of a standard request. -/
theorem hasEffect_setConfiguration : HasEffect setConfiguration := by
  intro speed r link m
  rw [setConfiguration]
  split
  · next m' h =>
    rw [Link.state_acknowledge]
    exact .select h
  · rw [Link.state_stall]
    exact .nothing

/-- A request for an alternate setting keeps the model. -/
theorem state_getInterface (speed : Speed) (r : Request) (link : Link) (m : Model) :
    (getInterface speed r link m).state = m := by
  rw [getInterface]
  split
  · exact Link.state_reply ..
  · exact link.state_stall m

/-- The standard requests change nothing but the configuration, the address and the remote
wakeup. -/
theorem hasEffect_lookup (code : UInt8) : HasEffect (requests.lookup code) := by
  have hempty : HasEffect Handler.replyEmpty :=
    hasEffect_of_state_eq fun _ _ link m => link.state_replyEmpty m
  have hstall : HasEffect Handler.stall :=
    hasEffect_of_state_eq fun _ _ link m => link.state_stall m
  have hreply : ∀ data : Request → Model → Bytes,
      HasEffect fun _ r link m => link.reply r (data r m) m :=
    fun data => hasEffect_of_state_eq fun _ r link m => link.state_reply r (data r m) m
  refine RequestTable.lookup_ofList hempty ?_ code
  simp only [List.forall_mem_cons]
  exact ⟨hreply _, hasEffect_changeFeature false, hasEffect_changeFeature true,
    hasEffect_setAddress, hasEffect_of_state_eq state_getDescriptor, hstall, hreply _,
    hasEffect_setConfiguration, hasEffect_of_state_eq state_getInterface, hempty, hstall, hreply _,
    List.forall_mem_nil _⟩

/-- Whatever the request, the standard table has one of the few effects. -/
theorem effect (speed : Speed) (r : Request) (link : Link) (m : Model) :
    Effect m (requests.dispatch speed r link m).state :=
  hasEffect_lookup r.code speed r link m

/-- No standard request changes the tree. -/
theorem Effect.configurations_eq {m m' : Model} (h : Effect m m') :
    m'.configurations = m.configurations := by
  cases h with
  | nothing => rfl
  | wakeup => rfl
  | address => rfl
  | select h =>
    rcases Model.eq_of_selectConfiguration? h with ⟨-, rfl⟩ | ⟨position, c, -, -, -, rfl⟩
    · rfl
    · rfl

end StandardRequests
end UsbGadget
