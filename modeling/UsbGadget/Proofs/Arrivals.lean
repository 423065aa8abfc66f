/-
# Requests that come in

Whatever happens to a device, all that its parts keep is changed by requests,
apart from what the traffic of an endpoint makes of the endpoint's own handler
(`Device.stateOf?_act_of_request?_eq_none`), and a request changes nothing but
the state of the one who serves it (`Device.stateOf?_handleRequest_of_not_serves`).

So what a part keeps after a run is what the requests make of it that came in,
each of them taken in by the device as it was then: `Device.arrivals` lists
these, and `Device.after_arrivals` gets the run from the single steps.  A part
that each request either writes or leaves alone holds what was written last
(`lastWrite`, `Device.after_lastWrite`).
-/

import UsbGadget.Proofs.Isolation
import UsbGadget.Proofs.LastWrite

namespace UsbGadget

/-! ### Arrivals -/

/-- The request that an action brings, if it is a SETUP packet that holds one. -/
def Action.request? : Action → Option Request
  | .event (.setup packet) => (Request.ofBytes packet).toOption
  | _ => none

namespace Device

/-- The requests that come in, each with the device that takes it in. -/
def arrivals (d : Device) : List Action → List (Device × Request)
  | [] => []
  | a :: actions => (a.request?.map fun r => (d, r)).toList ++ (d.act a).arrivals actions

/-- An action that is a request has the effect of the request. -/
theorem act_of_request?_eq_some {a : Action} {r : Request} (h : a.request? = some r) (d : Device) :
    d.act a = (d.handleRequest r).1 := by
  cases a with
  | event e =>
    cases e with
    | setup packet =>
      have hpacket : (Request.ofBytes packet).toOption = some r := h
      rw [act, handleEvent, handleSetup]
      cases hbytes : Request.ofBytes packet with
      | ok r' =>
        rw [hbytes] at hpacket
        cases hpacket
        rfl
      | error e =>
        rw [hbytes] at hpacket
        cases hpacket
    | data number data => cases h
    | bufferAvailable number => cases h
  | _ => cases h

section

variable {β : Type} {P : Device → β → Prop} {requests : RequestTable Model}
variable (hquiet : ∀ {d a b}, d.requests = requests → a.request? = none → P d b → P (d.act a) b)
include hquiet

/-- **What requests update, and nothing else changes, is after a run what the requests made of it
that came in.**  `P` ties the device to the value that is followed; the table of the device
stays. -/
theorem after_arrivals {f : β → Device × Request → β}
    (hrequest : ∀ {d b} r, d.requests = requests → P d b →
      P (d.handleRequest r).1 (f b (d, r)))
    {d : Device} {b : β} (hd : d.requests = requests) (h : P d b) (actions : List Action) :
    P (d.after actions) ((d.arrivals actions).foldl f b) := by
  induction actions generalizing d b with
  | nil => exact h
  | cons a actions ih =>
    have hact : (d.act a).requests = requests := (d.requests_act a).trans hd
    rw [arrivals, List.foldl_append]
    cases ha : a.request? with
    | none => exact ih hact (hquiet hd ha h)
    | some r =>
      refine ih hact ?_
      rw [act_of_request?_eq_some ha]
      exact hrequest r hd h

/-- What a request writes or leaves alone, and nothing else changes, is after a run what was written
last. -/
theorem after_lastWrite {write? : Device × Request → Option β}
    (hrequest : ∀ {d b} r, d.requests = requests → P d b →
      P (d.handleRequest r).1 ((write? (d, r)).getD b))
    {d : Device} {b : β} (hd : d.requests = requests) (h : P d b) (actions : List Action) :
    P (d.after actions) (lastWrite write? b (d.arrivals actions)) := by
  rw [← foldl_write]
  exact after_arrivals (P := P) hquiet hrequest hd h actions

end

end Device

/-! ### What traffic leaves alone -/

/-- Modifying one part leaves alone what it modifies into itself and all the other parts. -/
theorem partOf?_modify {α κ : Type} {stateOf? : α → κ → Option EntityState} {as : List α} {n : Nat}
    {f : α → α} {key : Nat × κ}
    (h : ∀ a, as[n]? = some a → n = key.1 → stateOf? (f a) key.2 = stateOf? a key.2) :
    partOf? stateOf? (as.modify n f) key = partOf? stateOf? as key := by
  unfold partOf?
  rw [List.getElem?_modify]
  cases ha : as[key.1]? with
  | none => rfl
  | some a =>
    rw [Option.map_eq_map, Option.map_some, Option.bind_some, Option.bind_some]
    split
    · next hn => exact h a (hn ▸ ha) hn
    · rfl

/-- Another endpoint at a slot changes nothing that is not kept at the slot. -/
theorem Model.stateOf?_setEndpoint {m : Model} {position : Nat} {slot : Slot} {ep ep' : Endpoint}
    {e : Entity} (hep : m.endpointAt? position slot = some ep)
    (h : ∀ part, e = ⟨position, slot.interface, .endpoint slot.endpoint part⟩ →
      ep'.stateOf? part = ep.stateOf? part) :
    (m.setEndpoint position slot ep').stateOf? e = m.stateOf? e := by
  obtain ⟨position', n, part⟩ := e
  refine partOf?_modify fun c hc hposition => partOf?_modify fun i hi hn => ?_
  obtain rfl : position = position' := hposition
  obtain rfl : slot.interface = n := hn
  cases part with
  | state => rfl
  | handler kind => rfl
  | endpoint place part =>
    dsimp only [Interface.stateOf?]
    rw [endpointAt?, hc, Option.bind_some, Configuration.endpointAt?, hi, Option.bind_some] at hep
    rw [← modify_eq_set hep fun _ => ep']
    refine partOf?_modify fun ep₀ hep₀ hplace => ?_
    obtain rfl : slot.endpoint = place := hplace
    obtain rfl := Option.some.inj (hep.symm.trans hep₀)
    exact h part rfl

/-- Traffic at an endpoint leaves all its parts but the traffic alone. -/
theorem Endpoint.stateOf?_withTraffic {part : Endpoint.Part} (hpart : part ≠ .traffic)
    (ep : Endpoint) (link : Link) (act : TrafficHandler → Answer TrafficHandler) :
    (ep.withTraffic link act).state.stateOf? part = ep.stateOf? part := by
  unfold withTraffic
  split
  · rfl
  · cases part with
    | status => rfl
    | traffic => exact absurd rfl hpart
    | handler kind => rfl

namespace Device

/-- A SETUP packet that holds no request changes nothing. -/
theorem act_of_setup_error {packet : Bytes}
    (h : (Action.event (.setup packet)).request? = none) (d : Device) :
    d.act (.event (.setup packet)) = d := by
  have hpacket : (Request.ofBytes packet).toOption = none := h
  rw [act, handleEvent, handleSetup]
  cases hbytes : Request.ofBytes packet with
  | ok r =>
    rw [hbytes] at hpacket
    cases hpacket
  | error e => rfl

variable {d : Device} {e : Entity}

/-- Traffic at an endpoint leaves everything but the traffic of endpoints alone. -/
theorem stateOf?_withEndpoint (he : ∀ place, e.part ≠ .endpoint place .traffic) (d : Device)
    (number : UInt8) (act : Speed → Link → TrafficHandler → Answer TrafficHandler)
    (note : Link → Link) :
    (d.withEndpoint number (fun speed link ep => ep.withTraffic link (act speed link))
      note).1.model.stateOf? e = d.model.stateOf? e := by
  unfold withEndpoint
  split
  · split
    · next answer hanswer =>
      have hserved := hanswer
      obtain ⟨slot, hslot, hactive⟩ := Option.bind_eq_some_iff.1 hanswer
      obtain ⟨position, hposition, -⟩ := Option.bind_eq_some_iff.1 hactive
      rw [Model.serveEndpoint?_eq hposition hslot] at hserved
      obtain ⟨ep, hep, rfl⟩ := Option.map_eq_some_iff.1 hserved
      refine Model.stateOf?_setEndpoint hep fun part heq => ?_
      refine Endpoint.stateOf?_withTraffic ?_ ep (note d.link) _
      rintro rfl
      exact he slot.endpoint (congrArg Entity.part heq)
    · rfl
  · rfl

/-- Without a request nothing changes but what traffic handlers keep. -/
theorem stateOf?_act_of_request?_eq_none {a : Action}
    (he : ∀ place, e.part ≠ .endpoint place .traffic) (h : a.request? = none) (d : Device) :
    (d.act a).model.stateOf? e = d.model.stateOf? e := by
  cases a with
  | connect => rfl
  | disconnect => rfl
  | poll => rw [act_poll]; split <;> rfl
  | event event =>
    cases event with
    | setup packet => rw [act_of_setup_error h]
    | data number data =>
      rw [act, handleEvent, handleData]
      exact stateOf?_withEndpoint he d number (fun speed link t => t.receive speed data link) _
    | bufferAvailable number =>
      exact stateOf?_withEndpoint he d number (fun speed link t => t.offer speed link) id

/-- Without a request nothing changes but the state of the connection, and what the parts of the
tree keep. -/
theorem shape_act_of_request?_eq_none {a : Action} (h : a.request? = none) (d : Device) :
    ∃ state, (d.act a).model.shape = { d.model with state := state }.shape := by
  cases a with
  | connect => exact ⟨_, rfl⟩
  | disconnect => exact ⟨_, rfl⟩
  | poll => rw [act_poll]; split <;> exact ⟨_, rfl⟩
  | event event =>
    cases event with
    | setup packet => exact ⟨_, congrArg (·.model.shape) (act_of_setup_error h d)⟩
    | data number data => exact ⟨_, d.shape_handleData number data⟩
    | bufferAvailable number => exact ⟨_, d.shape_handleBuffer number⟩

/-! ### What a request leaves alone -/

end Device

/-- The handler of requests to a device leaves an entity alone. -/
def Handler.Spares (h : Handler Model) (e : Entity) : Prop :=
  ∀ speed r link m, (h speed r link m).state.stateOf? e = m.stateOf? e

/-- No standard request runs a handler outside its own place. -/
theorem StandardRequests.spares_lookup (code : UInt8) (e : Entity) :
    (requests.lookup code).Spares e := by
  intro speed r link m
  unfold Model.stateOf?
  rw [(hasEffect_lookup code speed r link m).configurations_eq]

namespace Device

variable {d : Device} {e : Entity}

/-- What does not serve a request keeps what it kept. -/
theorem stateOf?_handleRequest_of_not_serves {r : Request}
    (hrequests : ∀ code, (d.requests.lookup code).Spares e)
    (h : ∀ serve, ¬ d.model.Serves r e serve) :
    (d.handleRequest r).1.model.stateOf? e = d.model.stateOf? e := by
  by_cases hdevice : r.target d.model.policy = .device
  · rw [handleRequest_of_target_eq_device hdevice]
    exact hrequests r.code ..
  · cases hserve : serve? d.requests (r.target d.model.policy) r (d.link.note .setupReceived)
      d.model with
    | none => rw [handleRequest_eq_refused hserve, refused]
    | some answer =>
      have htarget : r.target d.model.policy ≠ .nobody := by
        intro htarget
        rw [htarget] at hserve
        cases hserve
      have haddresses :=
        Request.addresses_target (mt Request.target_eq_device_iff.2 hdevice) htarget
      obtain ⟨e', serve, hhosts⟩ := Model.exists_hosts hdevice hserve
      have hserves : d.model.Serves r e' serve := ⟨_, haddresses, hhosts⟩
      refine (isServedBy hserves).model.others e ?_
      rintro rfl
      exact h serve hserves

end Device

end UsbGadget
