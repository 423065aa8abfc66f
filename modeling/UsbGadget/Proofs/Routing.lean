/-
# Where traffic goes

The routes of a model are made when a configuration is selected, and used
whenever traffic comes in.  In between, the device may be stalled, reset,
disconnected and connected again, and its endpoints change what they keep for
themselves.

The routes of a configuration designate, for every endpoint number in it, the
last endpoint that has the number (`Configuration.designates_of_find?_routes`,
`isSome_find?_routes`).  That the routes of the model are those of its active
configuration (`Model.Routed`) holds of every model that is made
(`Model.Made.routed`) and cannot be broken (`lasting_routed`), because no
handler changes the numbers in a tree.  So traffic that comes in is handled by
the endpoint that the number designates, and by nothing else
(`Device.delivers_handleEvent`).

What an endpoint makes of traffic is said for each kind of handler
(`TrafficHandler.Makes`):

| handler | data | room for data |
| --- | --- | --- |
| none, or a silent one | nothing | nothing |
| a receiver of lines | takes it in | nothing |
| a responder | nothing | sends its frame |
| one of the device's own | `onData`, once | `onBuffer`, once |
-/

import Mathlib.Tactic.SplitIfs
import UsbGadget.Proofs.Session
import UsbGadget.Reaction

namespace UsbGadget

/-! ### Places of endpoints -/

/-- The order of the interfaces, and in one interface the order of its endpoints. -/
def Slot.Before (a b : Slot) : Prop :=
  a.interface < b.interface ∨ a.interface = b.interface ∧ a.endpoint < b.endpoint

/-- The numbers of numbered elements go up. -/
theorem pairwise_zipIdx {α : Type} (as : List α) : as.zipIdx.Pairwise fun a b => a.2 < b.2 := by
  have h : (as.zipIdx.map (·.2)).Pairwise (· < ·) := by
    rw [List.zipIdx_map_snd]
    exact List.pairwise_lt_range'
  exact List.pairwise_map.1 h

namespace Configuration

/-- The number is that of one of the endpoints. -/
def Uses (c : Configuration) (number : UInt8) : Prop :=
  ∃ i ∈ c.interfaces, ∃ ep ∈ i.endpoints, ep.number = number

/-- At the slot is the last endpoint that has the number. -/
def Designates (c : Configuration) (number : UInt8) (slot : Slot) : Prop :=
  (∃ ep, c.endpointAt? slot = some ep ∧ ep.number = number) ∧
    ∀ other ep, c.endpointAt? other = some ep → ep.number = number →
      other = slot ∨ other.Before slot

/-- The endpoint at a slot is that of an interface at its position there. -/
theorem endpointAt?_eq_some_iff {c : Configuration} {slot : Slot} {ep : Endpoint} :
    c.endpointAt? slot = some ep ↔
      ∃ i, c.interfaces[slot.interface]? = some i ∧ i.endpoints[slot.endpoint]? = some ep :=
  Option.bind_eq_some_iff

/-- Some endpoint has a property just if one at a slot has. -/
theorem exists_endpoint_iff {c : Configuration} {P : Endpoint → Prop} :
    (∃ i ∈ c.interfaces, ∃ ep ∈ i.endpoints, P ep) ↔
      ∃ slot ep, c.endpointAt? slot = some ep ∧ P ep := by
  constructor
  · rintro ⟨i, hi, ep, hep, hP⟩
    obtain ⟨position, hposition⟩ := List.mem_iff_getElem?.1 hi
    obtain ⟨place, hplace⟩ := List.mem_iff_getElem?.1 hep
    exact ⟨⟨position, place⟩, ep, endpointAt?_eq_some_iff.2 ⟨i, hposition, hplace⟩, hP⟩
  · rintro ⟨slot, ep, hep, hP⟩
    obtain ⟨i, hi, hep⟩ := endpointAt?_eq_some_iff.1 hep
    exact ⟨i, List.mem_of_getElem? hi, ep, List.mem_of_getElem? hep, hP⟩

/-- A number is used just if the endpoint at some slot has it. -/
theorem uses_iff (c : Configuration) (number : UInt8) :
    c.Uses number ↔ ∃ slot ep, c.endpointAt? slot = some ep ∧ ep.number = number :=
  exists_endpoint_iff

/-- The slots of a configuration are those of its endpoints, with their numbers. -/
theorem mem_slots {c : Configuration} {number : UInt8} {slot : Slot} :
    (number, slot) ∈ c.slots ↔ ∃ ep, c.endpointAt? slot = some ep ∧ ep.number = number := by
  simp only [slots, List.mem_flatMap, List.mem_map]
  constructor
  · rintro ⟨⟨i, position⟩, hi, ⟨ep, place⟩, hep, h⟩
    obtain ⟨rfl, rfl⟩ := Prod.mk.inj h
    exact ⟨ep, endpointAt?_eq_some_iff.2 ⟨i, List.mk_mem_zipIdx_iff_getElem?.1 hi,
      List.mk_mem_zipIdx_iff_getElem?.1 hep⟩, rfl⟩
  · rintro ⟨ep, h, rfl⟩
    obtain ⟨i, hi, hep⟩ := endpointAt?_eq_some_iff.1 h
    exact ⟨(i, slot.interface), List.mk_mem_zipIdx_iff_getElem?.2 hi, (ep, slot.endpoint),
      List.mk_mem_zipIdx_iff_getElem?.2 hep, rfl⟩

/-- The slots are in the order of the interfaces, and of the endpoints in each. -/
theorem pairwise_slots (c : Configuration) : c.slots.Pairwise fun a b => a.2.Before b.2 := by
  unfold slots
  rw [List.pairwise_flatMap]
  constructor
  · intro ⟨i, position⟩ _
    rw [List.pairwise_map]
    exact (pairwise_zipIdx i.endpoints).imp fun h => .inr ⟨rfl, h⟩
  · refine (pairwise_zipIdx c.interfaces).imp ?_
    intro a b hab x hx y hy
    obtain ⟨x, -, rfl⟩ := List.mem_map.1 hx
    obtain ⟨y, -, rfl⟩ := List.mem_map.1 hy
    exact .inl hab

/-- The routes send a number to the last endpoint that has it. -/
theorem designates_of_find?_routes {c : Configuration} {number : UInt8} {slot : Slot}
    (h : c.routes.find? number = some slot) : c.Designates number slot := by
  obtain ⟨hmem, hlast⟩ := Table.last_of_find?_ofList c.pairwise_slots h
  refine ⟨mem_slots.1 hmem, ?_⟩
  intro other ep hep hnumber
  exact hlast other (mem_slots.2 ⟨ep, hep, hnumber⟩)

/-- The routes know the numbers of the configuration, and no others. -/
theorem isSome_find?_routes (c : Configuration) (number : UInt8) :
    (c.routes.find? number).isSome ↔ c.Uses number := by
  rw [routes, Table.isSome_find?_ofList, uses_iff]
  simp only [mem_slots]

/-- What its endpoints keep for themselves has no part in the slots of a configuration. -/
theorem slots_shape (c : Configuration) : c.shape.slots = c.slots := by
  simp only [slots, shape, Interface.shape, List.zipIdx_map, List.flatMap_map, List.map_map,
    Function.comp_def, Prod.map, id, Endpoint.shape]

/-- What its endpoints keep for themselves has no part in the routes of a configuration. -/
theorem routes_shape (c : Configuration) : c.shape.routes = c.routes := by
  rw [routes, slots_shape, routes]

end Configuration

/-! ### The routes of a model are those of its active configuration -/

/-- Lists with the same image have elements with the same image at the same positions. -/
theorem exists_getElem?_of_map_eq {α β : Type} {f : α → β} {as bs : List α}
    (h : bs.map f = as.map f) {n : Nat} {a : α} (ha : as[n]? = some a) :
    ∃ b, bs[n]? = some b ∧ f b = f a := by
  have hn : (bs[n]?).map f = some (f a) := by
    rw [← List.getElem?_map, h, List.getElem?_map, ha, Option.map_some]
  exact Option.map_eq_some_iff.1 hn

namespace Model

/-- The active configuration is one of the model's, and the routes are its routes; without one
there are none. -/
structure Routed (m : Model) : Prop where
  idle : m.active = none → m.routes = {}
  active : ∀ position, m.active = some position →
    ∃ c, m.configurations[position]? = some c ∧ m.routes = c.routes

/-- The models that can be made: one is built, and then set up further. -/
inductive Made : Model → Prop where
  | build {info : DeviceInfo} {configurations : List Configuration} {m : Model}
      (h : build info configurations = .ok m) : Made m
  | info (info : DeviceInfo) {m : Model} (h : Made m) : Made { m with info := info }
  | speed (speed : Speed) {m : Model} (h : Made m) : Made { m with speed := speed }
  | policy (policy : Policy) {m : Model} (h : Made m) : Made { m with policy := policy }
  | objectStore (store : ObjectStore) {m : Model} (h : Made m) :
      Made { m with objectStore := some store }
  | string (s : String) {m : Model} (h : Made m) : Made (m.registerString s).2
  | select {value : UInt8} {m m' : Model} (h : Made m)
      (hselect : m.selectConfiguration? value = some m') : Made m'

/-- A model that has left every configuration has no routes. -/
theorem routed_deconfigure (m : Model) : m.deconfigure.Routed :=
  ⟨fun _ => rfl, fun _ h => nomatch h⟩

/-- A model that selects a configuration gets its routes. -/
theorem routed_activate {m : Model} {position : Nat} {c : Configuration}
    (h : m.configurations[position]? = some c) : (m.activate position c).Routed := by
  constructor
  · intro hnone
    cases hnone
  · rintro _ ⟨⟩
    exact ⟨c, h, rfl⟩

/-- Whatever the routes were before, selecting a configuration makes them anew. -/
theorem routed_selectConfiguration? {m m' : Model} {value : UInt8}
    (h : m.selectConfiguration? value = some m') : m'.Routed := by
  rcases eq_of_selectConfiguration? h with ⟨-, rfl⟩ | ⟨position, c, -, -, hc, rfl⟩
  · exact m.routed_deconfigure
  · exact routed_activate hc

/-- A model that is built has no active configuration and no routes, and is detached. -/
theorem fresh_of_build {info : DeviceInfo} {configurations : List Configuration} {m : Model}
    (h : build info configurations = .ok m) :
    m.active = none ∧ m.routes = {} ∧ m.state = .detached := by
  unfold build at h
  split_ifs at h
  cases h
  exact ⟨rfl, rfl, rfl⟩

/-- What a model has when it is built, in which the settings have no part, and what a selection
keeps, every model that can be made has. -/
theorem Made.induct {P : Model → Prop}
    (hbuild : ∀ {info configurations m}, Model.build info configurations = .ok m → P m)
    (hset : ∀ (m : Model) info strings speed policy store, P m →
      P { m with
          info := info, strings := strings, speed := speed, policy := policy,
          objectStore := store })
    (hselect : ∀ {value m m'}, P m → selectConfiguration? m value = some m' → P m')
    {m : Model} (h : m.Made) : P m := by
  induction h with
  | build h => exact hbuild h
  | info _ _ ih => exact hset _ _ _ _ _ _ ih
  | speed _ _ ih => exact hset _ _ _ _ _ _ ih
  | policy _ _ ih => exact hset _ _ _ _ _ _ ih
  | objectStore _ _ ih => exact hset _ _ _ _ _ _ ih
  | string _ _ ih => exact hset _ _ _ _ _ _ ih
  | select _ h ih => exact hselect ih h

/-- The routes of every model that can be made are those of its active configuration. -/
theorem Made.routed {m : Model} (h : m.Made) : m.Routed := by
  refine Made.induct ?_ ?_ ?_ h
  · intro info configurations m hbuild
    obtain ⟨hactive, hroutes, -⟩ := fresh_of_build hbuild
    refine ⟨fun _ => hroutes, ?_⟩
    intro position hsome
    rw [hactive] at hsome
    cases hsome
  · intro m info strings speed policy store hrouted
    exact ⟨hrouted.idle, hrouted.active⟩
  · intro value m m' _ hselect
    exact routed_selectConfiguration? hselect

/-- What the endpoints of a model keep for themselves has no part in its routes. -/
theorem Routed.of_shape {m m' : Model} (hshape : m'.shape = m.shape) (h : m.Routed) :
    m'.Routed := by
  have hactive : m'.active = m.active := congrArg (·.active) hshape
  have hroutes : m'.routes = m.routes := congrArg (·.routes) hshape
  have hconfigurations : m'.configurations.map (·.shape) = m.configurations.map (·.shape) :=
    congrArg (·.configurations) hshape
  constructor
  · rw [hactive, hroutes]
    exact h.idle
  · intro position hposition
    rw [hactive] at hposition
    obtain ⟨c, hc, hcroutes⟩ := h.active position hposition
    -- The configuration there may differ from `c` in what its parts keep, but not in its slots.
    obtain ⟨c', hc', hcshape⟩ := exists_getElem?_of_map_eq hconfigurations hc
    refine ⟨c', hc', ?_⟩
    rw [hroutes, hcroutes, ← c.routes_shape, ← hcshape, c'.routes_shape]

/-- No standard request breaks the routes of a model. -/
theorem Routed.of_effect {m m' : Model} (heffect : StandardRequests.Effect m m') (h : m.Routed) :
    m'.Routed := by
  cases heffect with
  | nothing => exact h
  | wakeup => exact ⟨h.idle, h.active⟩
  | address => exact ⟨h.idle, h.active⟩
  | select hselect => exact routed_selectConfiguration? hselect

/-- Nothing that happens to a device with the standard requests breaks the routes. -/
theorem lasting_routed : Device.Lasting StandardRequests.requests Routed where
  shape _ _ := .of_shape
  state _ _ h := ⟨h.idle, h.active⟩
  request speed r link m := .of_effect (StandardRequests.effect speed r link m)

end Model

/-! ### Traffic acts on one endpoint -/

/-- Where there is an element, modifying it is replacing it by what it is modified to. -/
theorem modify_eq_set {α : Type} {as : List α} {n : Nat} {a : α} (h : as[n]? = some a)
    (f : α → α) : as.modify n f = as.set n (f a) := by
  obtain ⟨hn, -⟩ := List.getElem?_eq_some_iff.1 h
  apply List.ext_getElem?
  intro i
  rw [List.getElem?_modify, List.getElem?_set]
  split
  · next hi =>
    rw [← hi, h]
    rfl
  · exact Option.map_id_apply'

/-- The configuration with another endpoint at a slot. -/
def Configuration.setEndpoint (c : Configuration) (slot : Slot) (ep : Endpoint) : Configuration :=
  { c with
    interfaces := c.interfaces.modify slot.interface fun i =>
      { i with endpoints := i.endpoints.set slot.endpoint ep } }

/-- What serves at a slot is the endpoint there, and what it becomes takes its place. -/
theorem Configuration.serveEndpoint?_eq (c : Configuration) (slot : Slot)
    (serve : Endpoint → Answer Endpoint) :
    c.serveEndpoint? slot serve =
      (c.endpointAt? slot).map fun ep => (serve ep).map (c.setEndpoint slot) := by
  rw [serveEndpoint?, serveInterfaces, serveAt_eq, endpointAt?]
  cases hi : c.interfaces[slot.interface]? with
  | none => rfl
  | some i =>
    have hset : ∀ ep, c.setEndpoint slot ep = { c with
        interfaces := c.interfaces.set slot.interface
          { i with endpoints := i.endpoints.set slot.endpoint ep } } := by
      intro ep
      rw [setEndpoint, modify_eq_set hi]
    rw [Option.bind_some, Option.bind_some, Interface.serveEndpoints, serveAt_eq]
    cases i.endpoints[slot.endpoint]? with
    | none => rfl
    | some ep =>
      show some _ = some ((serve ep).map fun ep => c.setEndpoint slot ep)
      simp only [hset]
      rfl

/-- Replacing an endpoint leaves those at all other slots. -/
theorem Configuration.endpointAt?_setEndpoint_of_ne {slot other : Slot} (h : other ≠ slot)
    (c : Configuration) (ep : Endpoint) :
    (c.setEndpoint slot ep).endpointAt? other = c.endpointAt? other := by
  rw [endpointAt?, setEndpoint, List.getElem?_modify, endpointAt?]
  cases c.interfaces[other.interface]? with
  | none => split <;> rfl
  | some i =>
    rw [Option.map_eq_map, Option.map_some, Option.bind_some, Option.bind_some]
    split
    · next hinterface =>
      have hendpoint : slot.endpoint ≠ other.endpoint := by
        intro hendpoint
        apply h
        cases other
        cases slot
        simp_all only
      exact List.getElem?_set_ne hendpoint
    · rfl

namespace Model

/-- The endpoint at a slot of the configuration at a position. -/
def endpointAt? (m : Model) (position : Nat) (slot : Slot) : Option Endpoint :=
  (m.configurations[position]?).bind (·.endpointAt? slot)

/-- The model with another endpoint at a slot of the configuration at a position. -/
def setEndpoint (m : Model) (position : Nat) (slot : Slot) (ep : Endpoint) : Model :=
  { m with configurations := m.configurations.modify position (·.setEndpoint slot ep) }

/-- An endpoint that is put into its slot is found there. -/
theorem endpointAt?_setEndpoint_self {m : Model} {position : Nat} {slot : Slot} {ep : Endpoint}
    (h : m.endpointAt? position slot = some ep) (ep' : Endpoint) :
    (m.setEndpoint position slot ep').endpointAt? position slot = some ep' := by
  obtain ⟨c, hc, h⟩ := Option.bind_eq_some_iff.1 h
  obtain ⟨i, hi, hep⟩ := Configuration.endpointAt?_eq_some_iff.1 h
  have hplace := (List.getElem?_eq_some_iff.1 hep).1
  rw [endpointAt?, setEndpoint, List.getElem?_modify_eq, hc]
  show ((c.interfaces.modify slot.interface _)[slot.interface]?).bind _ = _
  rw [List.getElem?_modify_eq, hi]
  exact List.getElem?_set_self hplace

/-- No other endpoint is touched. -/
theorem endpointAt?_setEndpoint_of_ne {position elsewhere : Nat} {slot other : Slot}
    (h : ¬ (elsewhere = position ∧ other = slot)) (m : Model) (ep : Endpoint) :
    (m.setEndpoint position slot ep).endpointAt? elsewhere other =
      m.endpointAt? elsewhere other := by
  rw [endpointAt?, setEndpoint, List.getElem?_modify, endpointAt?]
  cases m.configurations[elsewhere]? with
  | none => split <;> rfl
  | some c =>
    rw [Option.map_eq_map, Option.map_some, Option.bind_some, Option.bind_some]
    split
    · next hposition =>
      have hother : other ≠ slot := fun hother => h ⟨hposition.symm, hother⟩
      exact c.endpointAt?_setEndpoint_of_ne hother ep
    · rfl

/-- What serves at a number is the endpoint that the number is routed to. -/
theorem serveEndpoint?_eq {m : Model} {position : Nat} {number : UInt8} {slot : Slot}
    (hactive : m.active = some position) (hroute : m.routes.find? number = some slot)
    (serve : Endpoint → Answer Endpoint) :
    m.serveEndpoint? number serve =
      (m.endpointAt? position slot).map fun ep => (serve ep).map (m.setEndpoint position slot) := by
  rw [serveEndpoint?, hroute, Option.bind_some, serveActive?_eq, hactive, Option.bind_some,
    endpointAt?]
  cases hc : m.configurations[position]? with
  | none => rfl
  | some c =>
    have hset : ∀ ep, m.setEndpoint position slot ep =
        { m with configurations := m.configurations.set position (c.setEndpoint slot ep) } := by
      intro ep
      rw [setEndpoint, modify_eq_set hc]
    rw [Option.bind_some, Option.bind_some, Configuration.serveEndpoint?_eq, Option.map_map]
    cases c.endpointAt? slot with
    | none => rfl
    | some ep =>
      show some _ = some ((serve ep).map fun ep => m.setEndpoint position slot ep)
      simp only [hset, hactive]
      rfl

namespace Routed

variable {m : Model}

/-- A routed number is that of an endpoint in the active configuration, at the slot that its route
leads to. -/
theorem exists_slot (h : m.Routed) {number : UInt8} (hnumber : number ∈ m.endpointNumbers) :
    ∃ position c slot ep, m.active = some position ∧ m.configurations[position]? = some c ∧
      m.routes.find? number = some slot ∧ c.Designates number slot ∧
      c.endpointAt? slot = some ep ∧ ep.number = number := by
  obtain ⟨slot, hslot⟩ := Option.isSome_iff_exists.1 ((Table.mem_keys_iff _ _).1 hnumber)
  cases hactive : m.active with
  | none =>
    rw [h.idle hactive, Table.find?_empty] at hslot
    cases hslot
  | some position =>
    obtain ⟨c, hc, hroutes⟩ := h.active position hactive
    have hdesignates : c.Designates number slot :=
      Configuration.designates_of_find?_routes (hroutes ▸ hslot)
    obtain ⟨ep, hep, hepnumber⟩ := hdesignates.1
    exact ⟨position, c, slot, ep, rfl, hc, hslot, hdesignates, hep, hepnumber⟩

/-- The routed numbers are those that the active configuration uses. -/
theorem mem_endpointNumbers (h : m.Routed) {position : Nat} {c : Configuration}
    (hactive : m.active = some position) (hc : m.configurations[position]? = some c)
    (number : UInt8) : number ∈ m.endpointNumbers ↔ c.Uses number := by
  obtain ⟨c', hc', hroutes⟩ := h.active position hactive
  obtain rfl := Option.some.inj (hc.symm.trans hc')
  rw [endpointNumbers, Table.mem_keys_iff, hroutes, Configuration.isSome_find?_routes]

/-- A number has an endpoint if it is routed, and the endpoint has the number. -/
theorem endpoint?_of_mem (h : m.Routed) {number : UInt8} (hnumber : number ∈ m.endpointNumbers) :
    ∃ ep, m.endpoint? number = some ep ∧ ep.number = number := by
  obtain ⟨position, c, slot, ep, hactive, hc, hslot, -, hep, hepnumber⟩ := h.exists_slot hnumber
  refine ⟨ep, ?_, hepnumber⟩
  rw [endpoint?, hslot, Option.bind_some, activeConfiguration?, hactive, Option.bind_some, hc,
    Option.bind_some, hep]

end Routed

/-- A number that is not routed has no route. -/
theorem find?_routes_of_not_mem {m : Model} {number : UInt8} (h : number ∉ m.endpointNumbers) :
    m.routes.find? number = none :=
  Option.not_isSome_iff_eq_none.1 fun hsome => h ((Table.mem_keys_iff _ _).2 hsome)

/-- A number that has an endpoint is routed. -/
theorem mem_endpointNumbers_of_endpoint? {m : Model} {number : UInt8} {ep : Endpoint}
    (h : m.endpoint? number = some ep) : number ∈ m.endpointNumbers := by
  obtain ⟨slot, hslot, -⟩ := Option.bind_eq_some_iff.1 h
  exact (Table.mem_keys_iff _ _).2 (Option.isSome_iff_exists.2 ⟨slot, hslot⟩)

end Model

/-! ### What an endpoint makes of traffic -/

/-- What the host does on an endpoint: it sends data, or it has room for data. -/
inductive Traffic where
  | data (bytes : Bytes)
  | room
  deriving DecidableEq, Repr

namespace Traffic

/-- The traffic comes in on the endpoint of a number. -/
def event (number : UInt8) : Traffic → HostEvent
  | data bytes => .data number bytes
  | room => .bufferAvailable number

/-- The link over which traffic of a number is handled: of data the application has been told, and
of nothing else. -/
def opened (number : UInt8) (link : Link) : Traffic → Link
  | data _ => { link with history := link.history ++ [.supported (Device.dataReason number)] }
  | room => link

end Traffic

/-- What a handler of traffic makes of it over a link: the handler that it becomes, the link, and
the failure if there is one. -/
inductive TrafficHandler.Makes (speed : Speed) (link : Link) :
    TrafficHandler → Traffic → Answer TrafficHandler → Prop where
  | silent (traffic : Traffic) : Makes speed link .silent traffic ⟨.silent, link, none⟩
  | line (lines : Cdc.LineReceiver) (bytes : Bytes) :
      Makes speed link (.receiver lines) (.data bytes)
        ⟨.receiver (lines.receive bytes), link, none⟩
  | lineless (lines : Cdc.LineReceiver) :
      Makes speed link (.receiver lines) .room ⟨.receiver lines, link, none⟩
  | frame (ep : UInt8) (bytes : Bytes) :
      Makes speed link (.responder ep bytes) .room
        ⟨.responder ep bytes, { link with transport := link.transport.attempt (.send ep bytes) },
          (link.transport.refusal? (.send ep bytes)).map .transport⟩
  | frameless (ep : UInt8) (bytes data : Bytes) :
      Makes speed link (.responder ep bytes) (.data data) ⟨.responder ep bytes, link, none⟩
  | data (t : CustomTraffic) (bytes : Bytes) :
      Makes speed link (.custom t) (.data bytes)
        ((t.onData speed bytes link t.state).map fun n => .custom { t with state := n })
  | room (t : CustomTraffic) :
      Makes speed link (.custom t) .room
        ((t.onBuffer speed link t.state).map fun n => .custom { t with state := n })

/-- What an endpoint makes of traffic over a link: what its handler makes of it, which takes the
handler's place; and nothing at all if it has no handler. -/
inductive Endpoint.Handles (speed : Speed) (link : Link) (ep : Endpoint) (traffic : Traffic) :
    Answer Endpoint → Prop where
  | unattended (hnone : ep.traffic = none) : Handles speed link ep traffic ⟨ep, link, none⟩
  | attended {t t' : TrafficHandler} {link' : Link} {failure : Option UsbError}
      (hsome : ep.traffic = some t) (hmakes : t.Makes speed link traffic ⟨t', link', failure⟩) :
      Handles speed link ep traffic ⟨{ ep with traffic := some t' }, link', failure⟩

/-- A handler that data comes in for makes of it what it makes of data. -/
theorem TrafficHandler.makes_receive (t : TrafficHandler) (speed : Speed) (link : Link)
    (bytes : Bytes) : t.Makes speed link (.data bytes) (t.receive speed bytes link) := by
  cases t with
  | silent => exact .silent _
  | receiver lines => exact .line lines bytes
  | responder ep frame => exact .frameless ep frame bytes
  | custom t => exact .data t bytes

/-- A handler that there is room for makes of it what it makes of room. -/
theorem TrafficHandler.makes_offer (t : TrafficHandler) (speed : Speed) (link : Link) :
    t.Makes speed link .room (t.offer speed link) := by
  cases t with
  | silent => exact .silent _
  | receiver lines => exact .lineless lines
  | responder ep frame =>
    rw [offer, Link.send, Link.call_eq]
    exact .frame ep frame
  | custom t => exact .room t

/-- An endpoint handles traffic by its handler. -/
theorem Endpoint.handles_withTraffic {ep : Endpoint} {speed : Speed} {link : Link}
    {traffic : Traffic} {act : TrafficHandler → Answer TrafficHandler}
    (h : ∀ t : TrafficHandler, t.Makes speed link traffic (act t)) :
    ep.Handles speed link traffic (ep.withTraffic link act) := by
  unfold withTraffic
  split
  · next hnone => exact .unattended hnone
  · next t hsome => exact .attended hsome (h t)

namespace Device

/-- Traffic of a number goes to the last endpoint of the active configuration that has the number:
this endpoint handles it, data after one signal that the host uses the function; what the endpoint
becomes takes its place, and every other endpoint stays as it was. -/
def Delivers (d : Device) (number : UInt8) (traffic : Traffic) (result : Device × Option UsbError) :
    Prop :=
  ∃ position c slot ep answer,
    d.model.active = some position ∧ d.model.configurations[position]? = some c ∧
    c.Designates number slot ∧ c.endpointAt? slot = some ep ∧
    ep.Handles d.model.speed (traffic.opened number d.link) traffic answer ∧
    result =
      ({ d with
          model := d.model.setEndpoint position slot answer.state
          link := answer.link },
        answer.failure) ∧
    result.1.model.endpointAt? position slot = some answer.state ∧
    ∀ elsewhere other, ¬ (elsewhere = position ∧ other = slot) →
      result.1.model.endpointAt? elsewhere other = d.model.endpointAt? elsewhere other

/-- Traffic changes nothing before the device is configured, nor for a number that has no route. -/
theorem withEndpoint_of_not (d : Device) (number : UInt8)
    (act : Speed → Link → Endpoint → Answer Endpoint) (note : Link → Link)
    (h : d.model.state ≠ .configured ∨ number ∉ d.model.endpointNumbers) :
    d.withEndpoint number act note = (d, none) := by
  unfold withEndpoint
  split_ifs with hstate
  · have hnumber := h.resolve_left (not_not_intro hstate)
    rw [Model.serveEndpoint?, Model.find?_routes_of_not_mem hnumber, Option.bind_none]
  · rfl

/-- What comes in for a number that has a route is left to the endpoint that the number
designates. -/
theorem delivers_withEndpoint {d : Device} (h : d.model.Routed)
    (hstate : d.model.state = .configured) {number : UInt8}
    (hnumber : number ∈ d.model.endpointNumbers) {traffic : Traffic}
    (act : Speed → Link → Endpoint → Answer Endpoint) (note : Link → Link)
    (hnote : note d.link = traffic.opened number d.link)
    (hact : ∀ (ep : Endpoint) speed link, ep.Handles speed link traffic (act speed link ep)) :
    d.Delivers number traffic (d.withEndpoint number act note) := by
  obtain ⟨position, c, slot, ep, hactive, hc, hslot, hdesignates, hep, -⟩ := h.exists_slot hnumber
  have hserve := Model.serveEndpoint?_eq hactive hslot (act d.model.speed (note d.link))
  have hfound : d.model.endpointAt? position slot = some ep := by
    rw [Model.endpointAt?, hc, Option.bind_some, hep]
  rw [hfound, Option.map_some] at hserve
  rw [withEndpoint, if_pos hstate, hserve]
  refine ⟨position, c, slot, ep, _, hactive, hc, hdesignates, hep, hnote ▸ hact ep _ _, rfl,
    Model.endpointAt?_setEndpoint_self hfound _, ?_⟩
  intro elsewhere other hne
  exact Model.endpointAt?_setEndpoint_of_ne hne d.model _

/-- **Traffic of a number that has a route is handled by the endpoint that the number
designates.** -/
theorem delivers_handleEvent {d : Device} (h : d.model.Routed)
    (hstate : d.model.state = .configured) {number : UInt8}
    (hnumber : number ∈ d.model.endpointNumbers) (traffic : Traffic) :
    d.Delivers number traffic (d.handleEvent (traffic.event number)) := by
  cases traffic with
  | data bytes =>
    exact delivers_withEndpoint h hstate hnumber
      (fun speed link => Endpoint.receive speed bytes link) (·.signal (dataReason number)) rfl
      fun ep speed link => ep.handles_withTraffic fun t => t.makes_receive speed link bytes
  | room =>
    exact delivers_withEndpoint h hstate hnumber Endpoint.offer id rfl
      fun ep speed link => ep.handles_withTraffic fun t => t.makes_offer speed link

/-- How a device routes traffic: by the active configuration, which without one is by nothing.

* the routed numbers are those in the configuration, and the slot of a number is that of the last
  endpoint that has it;
* a number has an endpoint if it is routed, and the endpoint has the number;
* traffic of any other number, or before the device is configured, changes nothing;
* all other traffic is delivered, data after one signal that the host uses the function. -/
structure RoutesTraffic (d : Device) : Prop where
  idle : d.model.active = none → d.model.endpointNumbers = []
  active : ∀ position, d.model.active = some position →
    ∃ c, d.model.configurations[position]? = some c ∧
      ∀ number, (number ∈ d.model.endpointNumbers ↔ c.Uses number) ∧
        ∀ slot, d.model.routes.find? number = some slot → c.Designates number slot
  present : ∀ number, (d.model.endpoint? number).isSome ↔ number ∈ d.model.endpointNumbers
  number : ∀ number ep, d.model.endpoint? number = some ep → ep.number = number
  ignored : ∀ number, d.model.state ≠ .configured ∨ number ∉ d.model.endpointNumbers →
    ∀ traffic : Traffic, d.handleEvent (traffic.event number) = (d, none)
  delivered : ∀ number, d.model.state = .configured → number ∈ d.model.endpointNumbers →
    ∀ traffic : Traffic, d.Delivers number traffic (d.handleEvent (traffic.event number))

/-- A model whose routes are those of its active configuration routes traffic by them. -/
theorem routesTraffic {d : Device} (h : d.model.Routed) : d.RoutesTraffic where
  idle hactive := by
    rw [Model.endpointNumbers, h.idle hactive]
    rfl
  active position hactive := by
    obtain ⟨c, hc, hroutes⟩ := h.active position hactive
    refine ⟨c, hc, fun number => ⟨h.mem_endpointNumbers hactive hc number, ?_⟩⟩
    rw [hroutes]
    exact fun slot => Configuration.designates_of_find?_routes
  present number := by
    constructor
    · intro hsome
      obtain ⟨ep, hep⟩ := Option.isSome_iff_exists.1 hsome
      exact Model.mem_endpointNumbers_of_endpoint? hep
    · intro hnumber
      obtain ⟨ep, hep, -⟩ := h.endpoint?_of_mem hnumber
      rw [hep]
      rfl
  number number ep hep := by
    obtain ⟨ep', hep', hep'number⟩ :=
      h.endpoint?_of_mem (Model.mem_endpointNumbers_of_endpoint? hep)
    obtain rfl := Option.some.inj (hep.symm.trans hep')
    exact hep'number
  ignored number hnot traffic := by
    cases traffic with
    | data bytes =>
      exact d.withEndpoint_of_not number (fun speed link => Endpoint.receive speed bytes link)
        (·.signal (dataReason number)) hnot
    | room => exact d.withEndpoint_of_not number Endpoint.offer id hnot
  delivered _ hstate hnumber traffic := delivers_handleEvent h hstate hnumber traffic

/-- **Traffic reaches the endpoint that its number designates, and nothing else.**  So it is for
every model that can be made, with the standard requests, whatever happened to the device. -/
theorem routesTraffic_after {m : Model} (hm : m.Made) (link : Link) (actions : List Action) :
    ((ofGadget { model := m } link).after actions).RoutesTraffic :=
  routesTraffic (Model.lasting_routed.after (d := ofGadget { model := m } link) hm.routed actions)

end Device

/-- A handler that counts the requests that it has served. -/
def FunctionHandler.counting (served : Nat) : FunctionHandler :=
  .custom
    { name := "counter"
      requests := { default := Reaction.handler Reaction.count .advance }
      state := served }

/-- Two interfaces with one endpoint each, both of which have the same number and send back what
they get.  Class requests are counted by the endpoint of the first interface, and would be by the
second interface. -/
def Configuration.shared : Configuration where
  interfaces :=
    [{ number := 0
       classCode := 0xff
       endpoints :=
         [{ Endpoint.ofNumber 1 .hostToDevice .bulk 64 with
            traffic := some (.custom (.echo 2))
            functions := { classHandler := some (.counting 0) } }] },
     { number := 1
       classCode := 0xff
       endpoints :=
         [{ Endpoint.ofNumber 1 .hostToDevice .bulk 64 with
            traffic := some (.custom (.echo 3)) }]
       functions := { classHandler := some (.counting 0) } }]

/-- The hypotheses of `Device.routesTraffic_after` are satisfiable: two endpoints share a number,
and once the host has selected their configuration the number leads to the second one.  That one
sends back the data that comes in, and then the count of how often there was room, which it keeps;
the first one is left alone. -/
theorem Device.routesTraffic_after_shared :
    ∃ m, Model.build {} [.shared] = .ok m ∧
      let d := (ofGadget { model := m } {}).after
        [.connect, .event (.setup [0, 9, 1, 0, 0, 0, 0, 0])]
      let fed := (d.handleEvent (.data 1 [0xaa])).1
      let told := (fed.handleEvent (.bufferAvailable 1)).1
      d.model.routes.find? 1 = some ⟨1, 0⟩ ∧ d.RoutesTraffic ∧
        d.Delivers 1 (.data [0xaa]) (d.handleEvent (.data 1 [0xaa])) ∧
        fed.Delivers 1 .room (fed.handleEvent (.bufferAvailable 1)) ∧
        told.link.transport.log = [.connect, .acknowledge, .send 3 [0xaa], .send 3 [1]] ∧
        Callback.reasons told.link.history = [dataReason 1] ∧
        ((told.model.endpointAt? 0 ⟨0, 0⟩).bind (·.traffic)) = some (.custom (.echo 2)) ∧
        ((told.model.endpointAt? 0 ⟨1, 0⟩).bind (·.traffic)) =
          some (.custom { CustomTraffic.echo 3 with state := 1 }) := by
  obtain ⟨m, hm⟩ : ∃ m, Model.build {} [.shared] = .ok m := ⟨_, rfl⟩
  refine ⟨m, hm, ?_⟩
  intro d fed told
  have hd : d.RoutesTraffic := routesTraffic_after (.build hm) {} _
  have hfed : fed.RoutesTraffic := routesTraffic_after (.build hm) {}
    [.connect, .event (.setup [0, 9, 1, 0, 0, 0, 0, 0]), .event (.data 1 [0xaa])]
  cases hm
  exact ⟨rfl, hd, hd.delivered 1 rfl (by decide) (.data [0xaa]),
    hfed.delivered 1 rfl (by decide) .room, rfl, rfl, rfl, rfl⟩

end UsbGadget
