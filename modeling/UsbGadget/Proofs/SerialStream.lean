/-
# The serial stream of a session

Data that comes in on endpoint 1 of a modem goes to the receiver of its data
interface, as long as the device is configured.  In between the host may send
requests to every part of the device, leave the configuration and select it
again, disconnect and connect, and use the other endpoints.

| what happens | the receiver |
| --- | --- |
| data on endpoint 1 while the device is configured | takes it in |
| data on another endpoint, or before the device is configured | |
| room for data | stays as it is |
| a request, to whomever it goes | |
| connecting, disconnecting | |

Traffic of one number changes what the endpoint keeps that the number is routed
to, and nothing else keeps traffic (`Device.stateOf?_traffic_withEndpoint`); a
request changes no such state at all (`Model.not_serves_traffic`).  Hence the
receiver has taken in, one after the other, the payloads that `Device.payloads`
lists (`Device.CarriesStream.after`), and so it holds the lines of these
(`Device.serialStream_after`).
-/

import UsbGadget.Proofs.Agreement
import UsbGadget.Proofs.Lines
import UsbGadget.Proofs.SerialLine

namespace UsbGadget

/-! ### What endpoints keep of their traffic -/

/-- The traffic handler of the endpoint at a slot of the configuration at a position. -/
def Slot.traffic (slot : Slot) (position : Nat) : Entity :=
  ⟨position, slot.interface, .endpoint slot.endpoint .traffic⟩

namespace Model

/-- The traffic state of a slot is that of the handler of the endpoint in the slot. -/
theorem stateOf?_traffic (m : Model) (position : Nat) (slot : Slot) :
    m.stateOf? (slot.traffic position) =
      (m.endpointAt? position slot).bind fun ep => ep.traffic.map .traffic := by
  show ((m.configurations[position]?).bind fun c => (c.interfaces[slot.interface]?).bind fun i =>
    (i.endpoints[slot.endpoint]?).bind fun ep => ep.traffic.map EntityState.traffic) = _
  simp only [endpointAt?, Configuration.endpointAt?, Option.bind_assoc]

/-- A slot with a traffic state holds an endpoint with this handler. -/
theorem exists_endpointAt?_of_traffic {m : Model} {position : Nat} {slot : Slot}
    {t : TrafficHandler} (h : m.stateOf? (slot.traffic position) = some (.traffic t)) :
    ∃ ep, m.endpointAt? position slot = some ep ∧ ep.traffic = some t := by
  rw [stateOf?_traffic] at h
  obtain ⟨ep, hep, h⟩ := Option.bind_eq_some_iff.1 h
  obtain ⟨t', ht', h⟩ := Option.map_eq_some_iff.1 h
  exact ⟨ep, hep, ht'.trans (congrArg some (EntityState.traffic.inj h))⟩

/-- No request is served by what keeps traffic. -/
theorem not_serves_traffic (m : Model) (r : Request) {e : Entity} {place : Nat}
    (he : e.part = .endpoint place .traffic) (serve : Link → Answer EntityState) :
    ¬ m.Serves r e serve := by
  rintro ⟨target, -, hhosts⟩
  cases hhosts with
  | interface => cases he
  | endpoint => cases he
  | function _ hoffers =>
    obtain ⟨i, -, hpart⟩ := hoffers.offers
    cases hpart <;> cases he

end Model

namespace Device

/-- Traffic of a number is served where the number is routed to, and changes nothing else. -/
theorem stateOf?_traffic_withEndpoint {d : Device} {position : Nat} {slot : Slot}
    {t : TrafficHandler} (h : d.model.stateOf? (slot.traffic position) = some (.traffic t))
    (number : UInt8) (act : Speed → Link → TrafficHandler → Answer TrafficHandler)
    (note : Link → Link) :
    (d.withEndpoint number (fun speed link ep => ep.withTraffic link (act speed link))
      note).1.model.stateOf? (slot.traffic position) =
        some (.traffic (if d.model.state = .configured ∧ d.model.active = some position ∧
            d.model.routes.find? number = some slot then
          (act d.model.speed (note d.link) t).state else t)) := by
  obtain ⟨ep, hep, ht⟩ := Model.exists_endpointAt?_of_traffic h
  split_ifs with hserved
  · obtain ⟨hstate, hactive, hroute⟩ := hserved
    rw [withEndpoint, if_pos hstate, Model.serveEndpoint?_eq hactive hroute, hep, Option.map_some]
    dsimp only [afterAnswer, Answer.state_map]
    rw [Model.stateOf?_traffic, Model.endpointAt?_setEndpoint_self hep, Option.bind_some,
      Endpoint.withTraffic, ht]
    rfl
  · rw [withEndpoint]
    split_ifs with hstate
    · split
      · next answer hanswer =>
        have hserve := hanswer
        obtain ⟨other, hother, hactive⟩ := Option.bind_eq_some_iff.1 hanswer
        obtain ⟨elsewhere, helsewhere, -⟩ := Option.bind_eq_some_iff.1 hactive
        rw [Model.serveEndpoint?_eq helsewhere hother] at hserve
        obtain ⟨ep', hep', rfl⟩ := Option.map_eq_some_iff.1 hserve
        refine (Model.stateOf?_setEndpoint hep' fun part heq => ?_).trans h
        -- The traffic goes to another endpoint, or it would be served here.
        obtain ⟨hposition, hinterface, hpart⟩ := Entity.mk.inj heq
        obtain ⟨hendpoint, -⟩ := Interface.Part.endpoint.inj hpart
        have hslot : other = slot := by
          cases other
          cases slot
          simp_all only
        exact absurd ⟨hstate, hposition ▸ helsewhere, hslot ▸ hother⟩ hserved
      · exact h
    · exact h

/-! ### The payloads of a session -/

/-- The data that an action brings in on the endpoint of a number while the device is configured. -/
def payload? (d : Device) (number : UInt8) : Action → Option Bytes
  | .event (.data other data) =>
    if other = number ∧ d.model.state = .configured then some data else none
  | _ => none

/-- The data that comes in on the endpoint of a number while the device is configured. -/
def payloads (number : UInt8) (d : Device) : List Action → List Bytes
  | [] => []
  | a :: actions => (d.payload? number a).toList ++ (d.act a).payloads number actions

end Device

/-- The one configuration of the model routes the number to the slot, and no other number. -/
structure Model.Leads (number : UInt8) (slot : Slot) (m : Model) : Prop where
  single : m.configurations.length = 1
  routes : ∀ c ∈ m.configurations, ∀ other, c.routes.find? other = some slot ↔ other = number

/-- That a number leads to a slot is one of the facts that no standard request changes. -/
theorem Model.lasting_leads (number : UInt8) (slot : Slot) :
    Device.Lasting StandardRequests.requests (Leads number slot) where
  shape m m' hshape h := by
    have htree : m'.configurations.map (·.shape) = m.configurations.map (·.shape) :=
      congrArg (·.configurations) hshape
    refine ⟨(lasting_length 1).shape m m' hshape h.single, ?_⟩
    intro c' hc' other
    have hmem : c'.shape ∈ m.configurations.map (·.shape) := htree ▸ List.mem_map_of_mem hc'
    obtain ⟨c, hc, hcshape⟩ := List.mem_map.1 hmem
    rw [← c'.routes_shape, ← hcshape, c.routes_shape]
    exact h.routes c hc other
  state _ _ h := ⟨h.single, h.routes⟩
  request speed r link m h := by
    have hconfigurations := (StandardRequests.effect speed r link m).configurations_eq
    refine ⟨hconfigurations ▸ h.single, ?_⟩
    rw [hconfigurations]
    exact h.routes

/-- The place of the receiver in the profiles of a serial line. -/
def Cdc.receiverSlot : Slot := ⟨1, 0⟩

namespace Device

/-- The device has one configuration, and in that the receiver of a serial line, which endpoint 1
leads to. -/
structure CarriesStream (d : Device) (receiver : Cdc.LineReceiver) : Prop where
  requests : d.requests = StandardRequests.requests
  routed : d.model.Routed
  leads : d.model.Leads 1 Cdc.receiverSlot
  configured : d.model.state = .configured → d.model.active.isSome
  state : d.model.stateOf? (Cdc.receiverSlot.traffic 0) = some (.traffic (.receiver receiver))

namespace CarriesStream

variable {d : Device} {receiver : Cdc.LineReceiver}

/-- While the device is configured, endpoint 1 leads to the receiver, and no other endpoint does. -/
theorem serves_iff (h : d.CarriesStream receiver) (number : UInt8) :
    (d.model.state = .configured ∧ d.model.active = some 0 ∧
        d.model.routes.find? number = some Cdc.receiverSlot) ↔
      number = 1 ∧ d.model.state = .configured := by
  have hroutes : d.model.state = .configured → d.model.active = some 0 ∧
      ∀ other, d.model.routes.find? other = some Cdc.receiverSlot ↔ other = 1 := by
    intro hstate
    have hactive := h.routed.active_eq_zero h.leads.single (h.configured hstate)
    obtain ⟨c, hc, hroutes⟩ := h.routed.active 0 hactive
    rw [hroutes]
    exact ⟨hactive, h.leads.routes c (List.mem_of_getElem? hc)⟩
  constructor
  · rintro ⟨hstate, -, hroute⟩
    exact ⟨((hroutes hstate).2 number).1 hroute, hstate⟩
  · rintro ⟨hnumber, hstate⟩
    exact ⟨hstate, (hroutes hstate).1, ((hroutes hstate).2 number).2 hnumber⟩

/-- Data on endpoint 1 goes to the receiver while the device is configured, and nothing else
does. -/
theorem stateOf?_act (h : d.CarriesStream receiver) (a : Action) :
    (d.act a).model.stateOf? (Cdc.receiverSlot.traffic 0) =
      some (.traffic (.receiver ((d.payload? 1 a).toList.foldl Cdc.LineReceiver.receive
        receiver))) := by
  cases a with
  | connect => exact h.state
  | disconnect => exact h.state
  | poll =>
    rw [act_poll]
    split
    · exact h.state
    · exact h.state
  | event event =>
    cases event with
    | setup packet =>
      cases hrequest : (Action.event (.setup packet)).request? with
      | none =>
        rw [act_of_setup_error hrequest]
        exact h.state
      | some r =>
        rw [act_of_request?_eq_some hrequest, stateOf?_handleRequest_of_not_serves
          (h.requests ▸ fun code => StandardRequests.spares_lookup code _)
          (d.model.not_serves_traffic r rfl)]
        exact h.state
    | data number data =>
      have hserved := stateOf?_traffic_withEndpoint h.state number
        (fun speed link t => t.receive speed data link) (·.signal (dataReason number))
      simp only [h.serves_iff] at hserved
      rw [payload?]
      refine hserved.trans ?_
      split_ifs <;> rfl
    | bufferAvailable number =>
      have hserved := stateOf?_traffic_withEndpoint h.state number
        (fun speed link t => t.offer speed link) id
      refine hserved.trans ?_
      split_ifs <;> rfl

/-- An action adds to the stream the payload that it delivers to endpoint 1, if it delivers one. -/
theorem act (h : d.CarriesStream receiver) (a : Action) :
    (d.act a).CarriesStream
      ((d.payload? 1 a).toList.foldl Cdc.LineReceiver.receive receiver) := by
  have hlasting := Model.lasting_routed.and (Model.lasting_leads 1 Cdc.receiverSlot)
  obtain ⟨hrouted, hleads⟩ := Lasting.act (h.requests ▸ hlasting) ⟨h.routed, h.leads⟩ a
  exact ⟨(d.requests_act a).trans h.requests, hrouted, hleads,
    isSome_active_act h.requests a h.configured, h.stateOf?_act a⟩

/-- After a run the receiver has taken in the payloads of endpoint 1, one after the other. -/
theorem after (h : d.CarriesStream receiver) (actions : List Action) :
    (d.after actions).CarriesStream
      ((d.payloads 1 actions).foldl Cdc.LineReceiver.receive receiver) := by
  induction actions generalizing d receiver with
  | nil => exact h
  | cons a actions ih =>
    rw [payloads, List.foldl_append]
    exact ih (h.act a)

/-- The receiver is that of an endpoint with the number 1. -/
theorem exists_endpointAt? (h : d.CarriesStream receiver) :
    ∃ ep, d.model.endpointAt? 0 Cdc.receiverSlot = some ep ∧ ep.number = 1 ∧
      ep.traffic = some (.receiver receiver) := by
  obtain ⟨ep, hep, htraffic⟩ := Model.exists_endpointAt?_of_traffic h.state
  obtain ⟨c, hc, hslot⟩ := Option.bind_eq_some_iff.1 hep
  have hroute := (h.leads.routes c (List.mem_of_getElem? hc) 1).2 rfl
  obtain ⟨ep', hep', hnumber⟩ := (Configuration.designates_of_find?_routes hroute).1
  obtain rfl := Option.some.inj (hslot.symm.trans hep')
  exact ⟨ep, hep, hnumber, htraffic⟩

end CarriesStream
end Device

/-- The profiles of a serial line carry a stream. -/
theorem Cdc.carriesStream_of_build {v : Variant} {o : ProfileOptions} {g : Gadget}
    (h : build v o = .ok g) (link : Link) : (Device.ofGadget g link).CarriesStream {} := by
  have hline := carriesLine_of_build h link
  obtain ⟨m, hm, hg⟩ := exists_of_bind_eq_ok h
  cases hg
  cases hm
  refine ⟨rfl, hline.routed, ⟨rfl, List.forall_mem_singleton.2 fun other => ?_⟩, ?_, rfl⟩
  · constructor
    · intro hroute
      obtain ⟨ep, hep, hnumber⟩ := (Configuration.designates_of_find?_routes hroute).1
      cases hep
      exact hnumber.symm
    · rintro rfl
      rfl
  · intro hstate
    cases hstate

namespace Device

/-- **No byte of the serial stream is lost, duplicated or reordered.**  Whatever happens to a device
of either profile, all the data that came in on endpoint 1 while it was configured, taken together,
is cut into lines and a rest: the endpoint has received the lines, as text, and waits with the
rest. -/
theorem serialStream_after {p : Profile} (hp : p = .cdcAcm ∨ p = .cdcDl) {o : ProfileOptions}
    {g : Gadget} (h : p.build o = .ok g) (link : Link) (actions : List Action) :
    let d := ofGadget g link
    ∃ lines rest ep, Cdc.Cuts (d.payloads 1 actions).flatten lines rest ∧
      (d.after actions).model.endpointAt? 0 Cdc.receiverSlot = some ep ∧ ep.number = 1 ∧
      ep.traffic = some (.receiver ⟨⟨rest⟩, lines.map Utf8.lossy⟩) := by
  intro d
  have hcarries : d.CarriesStream {} := by
    rcases hp with rfl | rfl
    · exact Cdc.carriesStream_of_build h link
    · exact Cdc.carriesStream_of_build h link
  obtain ⟨ep, hep, hnumber, htraffic⟩ := (hcarries.after actions).exists_endpointAt?
  obtain ⟨lines, rest, hcuts, hreceiver⟩ :=
    Cdc.LineReceiver.holds_nil.foldl_receive (d.payloads 1 actions)
  rw [hreceiver] at htraffic
  exact ⟨lines, rest, ep, hcuts, hep, hnumber, htraffic⟩

/-- The hypotheses of `Device.serialStream_after` are satisfiable: a line comes in across two
configurations, between which the device is left, and what comes in then is not taken in. -/
theorem serialStream_after_modem :
    ∃ g, Profile.cdcDl.build {} = .ok g ∧
      let d := (ofGadget g {}).after
        [.connect, .event (.setup [0, 9, 1, 0, 0, 0, 0, 0]), .event (.data 1 [0x41]),
          .event (.setup [0, 9, 0, 0, 0, 0, 0, 0]), .event (.data 1 [0x42]),
          .event (.setup [0, 9, 1, 0, 0, 0, 0, 0]), .event (.data 2 [0x43]),
          .event (.data 1 [0x44, 0x0d, 0x45])]
      ∃ ep, d.model.endpointAt? 0 Cdc.receiverSlot = some ep ∧
        ep.traffic = some (.receiver ⟨⟨[0x45]⟩, ["AD"]⟩) := by
  obtain ⟨g, hg⟩ : ∃ g, Profile.cdcDl.build {} = .ok g := ⟨_, rfl⟩
  refine ⟨g, hg, ?_⟩
  obtain ⟨lines, rest, ep, hcuts, hep, -, htraffic⟩ := serialStream_after (.inr rfl) hg {}
    [.connect, .event (.setup [0, 9, 1, 0, 0, 0, 0, 0]), .event (.data 1 [0x41]),
      .event (.setup [0, 9, 0, 0, 0, 0, 0, 0]), .event (.data 1 [0x42]),
      .event (.setup [0, 9, 1, 0, 0, 0, 0, 0]), .event (.data 2 [0x43]),
      .event (.data 1 [0x44, 0x0d, 0x45])]
  refine ⟨ep, hep, htraffic.trans ?_⟩
  have hpieces := hcuts.pieces_eq
  cases hg
  have hcut : (lines, rest) = ([[0x41, 0x44]], [0x45]) := hpieces.symm.trans (by decide +kernel)
  obtain ⟨rfl, rfl⟩ := Prod.mk.inj hcut
  have htext : Utf8.lossy [0x41, 0x44] = "AD" := by decide +kernel
  rw [List.map_singleton, htext]

end Device

end UsbGadget
