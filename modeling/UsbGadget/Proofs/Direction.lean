/-
# The direction of traffic

An OUT endpoint takes data from the host, an IN endpoint is told when the host
has room for data.  Both may have the same number, and traffic is routed by
number alone: all that comes in for a number goes to the last endpoint that has
it, whatever its direction.

So traffic of a direction reaches an endpoint of the direction if the last
endpoint with its number is one (`Device.servesDirection_iff`).  For a number
that is used in one direction only that is always so; of a number that is used
in both, one direction is never served (`Configuration.not_lastHas_both`).

The routes are those of the active configuration as long as the handlers that
replace standard requests write no routes of their own (`Handler.KeepsRoutes`).
-/

import UsbGadget.Proofs.Routing

namespace UsbGadget

/-- There are two directions only. -/
theorem Direction.eq_or_eq_of_ne {a b : Direction} (h : a ≠ b) (d : Direction) :
    d = a ∨ d = b := by
  cases a <;> cases b <;> cases d <;> simp_all

/-- Of two slots, at most one comes before the other. -/
theorem Slot.Before.asymm {a b : Slot} (h : a.Before b) : ¬ b.Before a := by
  unfold Before at *
  omega

/-- The direction of the endpoints that traffic is meant for: data for OUT endpoints, room for data
for IN endpoints. -/
def Traffic.direction : Traffic → Direction
  | data _ => .hostToDevice
  | room => .deviceToHost

/-- There is traffic in either direction. -/
theorem Traffic.exists_direction (direction : Direction) :
    ∃ traffic : Traffic, traffic.direction = direction := by
  cases direction with
  | hostToDevice => exact ⟨.data [], rfl⟩
  | deviceToHost => exact ⟨.room, rfl⟩

namespace Configuration

/-- An endpoint has the number and the direction. -/
def Has (c : Configuration) (number : UInt8) (direction : Direction) : Prop :=
  ∃ i ∈ c.interfaces, ∃ ep ∈ i.endpoints, ep.number = number ∧ ep.direction = direction

/-- The last endpoint that has the number has the direction. -/
def LastHas (c : Configuration) (number : UInt8) (direction : Direction) : Prop :=
  ∃ slot ep, c.Designates number slot ∧ c.endpointAt? slot = some ep ∧ ep.direction = direction

variable {c : Configuration} {number : UInt8}

/-- A number designates at most one slot. -/
theorem Designates.unique {a b : Slot} (ha : c.Designates number a) (hb : c.Designates number b) :
    a = b := by
  obtain ⟨x, hx, hxnumber⟩ := ha.1
  obtain ⟨y, hy, hynumber⟩ := hb.1
  rcases ha.2 b y hy hynumber with h | hba
  · exact h.symm
  · rcases hb.2 a x hx hxnumber with h | hab
    · exact h
    · exact absurd hab hba.asymm

/-- A number that has an endpoint of some direction is in use. -/
theorem Has.uses {direction : Direction} (h : c.Has number direction) : c.Uses number := by
  obtain ⟨i, hi, ep, hep, hnumber, -⟩ := h
  exact ⟨i, hi, ep, hep, hnumber⟩

/-- The direction that a number has last is one that it has. -/
theorem LastHas.has {direction : Direction} (h : c.LastHas number direction) :
    c.Has number direction := by
  obtain ⟨slot, ep, hdesignates, hep, hdirection⟩ := h
  obtain ⟨ep', hep', hnumber⟩ := hdesignates.1
  obtain rfl := Option.some.inj (hep.symm.trans hep')
  exact exists_endpoint_iff.2 ⟨slot, ep, hep, hnumber, hdirection⟩

/-- A number that is in use has an endpoint of one of the two directions last. -/
theorem Uses.exists_lastHas (h : c.Uses number) : ∃ direction, c.LastHas number direction := by
  obtain ⟨slot, hslot⟩ := Option.isSome_iff_exists.1 ((c.isSome_find?_routes number).2 h)
  have hdesignates := designates_of_find?_routes hslot
  obtain ⟨ep, hep, -⟩ := hdesignates.1
  exact ⟨ep.direction, slot, ep, hdesignates, hep, rfl⟩

/-- The last endpoint has one direction, so it serves at most one. -/
theorem LastHas.unique {a b : Direction} (ha : c.LastHas number a) (hb : c.LastHas number b) :
    a = b := by
  obtain ⟨slot, ep, hslot, hep, rfl⟩ := ha
  obtain ⟨slot', ep', hslot', hep', rfl⟩ := hb
  obtain rfl := hslot.unique hslot'
  rw [Option.some.inj (hep.symm.trans hep')]

/-- No number has an endpoint of both directions last. -/
theorem not_lastHas_both (c : Configuration) (number : UInt8) :
    ¬ ∀ direction, c.LastHas number direction := by
  intro h
  exact absurd ((h .hostToDevice).unique (h .deviceToHost)) (by decide)

/-- Every direction of a number is that of the last endpoint just if there is at most one. -/
theorem forall_lastHas_iff :
    (∀ direction, c.Has number direction → c.LastHas number direction) ↔
      ¬ ∀ direction, c.Has number direction := by
  constructor
  · intro hserved hboth
    exact not_lastHas_both _ _ fun direction => hserved direction (hboth direction)
  · intro hnot direction hdirection
    obtain ⟨last, hlast⟩ := hdirection.uses.exists_lastHas
    by_cases heq : last = direction
    · exact heq ▸ hlast
    · refine absurd ?_ hnot
      intro other
      rcases Direction.eq_or_eq_of_ne heq other with rfl | rfl
      · exact hlast.has
      · exact hdirection

end Configuration

/-- The handler writes no routes of its own: a model keeps those of its active configuration. -/
def Handler.KeepsRoutes (h : Handler Model) : Prop :=
  ∀ speed r link m, m.Routed → (h speed r link m).state.Routed

/-- Nothing that happens to a device breaks the routes, if no handler of its table writes them. -/
theorem Gadget.lasting_routed {g : Gadget}
    (h : ∀ e ∈ g.overrides.entries, Handler.KeepsRoutes e.2) :
    Device.Lasting (StandardRequests.requests.merge g.overrides) Model.Routed where
  shape := Model.lasting_routed.shape
  state := Model.lasting_routed.state
  request speed r link m := by
    have hstandard : ∀ code, Handler.KeepsRoutes (StandardRequests.requests.lookup code) :=
      fun code speed r link m =>
        .of_effect (StandardRequests.hasEffect_lookup code speed r link m)
    exact RequestTable.lookup_merge hstandard h r.code speed r link m

/-- The routes of the active configuration lead a number to the endpoint that it designates. -/
theorem Model.Routed.endpoint?_of_designates {m : Model} (h : m.Routed) {position : Nat}
    {c : Configuration} {number : UInt8} {slot : Slot} {ep : Endpoint}
    (hactive : m.active = some position) (hc : m.configurations[position]? = some c)
    (hdesignates : c.Designates number slot) (hep : c.endpointAt? slot = some ep) :
    m.endpoint? number = some ep := by
  have huses : c.Uses number := (c.uses_iff number).2 ⟨slot, hdesignates.1⟩
  obtain ⟨c', hc', hroutes⟩ := h.active position hactive
  obtain rfl := Option.some.inj (hc.symm.trans hc')
  obtain ⟨found, hfound⟩ := Option.isSome_iff_exists.1 ((c.isSome_find?_routes number).2 huses)
  obtain rfl := (Configuration.designates_of_find?_routes hfound).unique hdesignates
  rw [endpoint?, hroutes, hfound, Option.bind_some, activeConfiguration?, hactive,
    Option.bind_some, hc, Option.bind_some, hep]

namespace Device

/-- The endpoint that traffic of a number goes to has the direction: it handles the traffic, and
what it becomes takes its place. -/
def Reaches (d : Device) (number : UInt8) (direction : Direction) (traffic : Traffic)
    (result : Device × Option UsbError) : Prop :=
  ∃ position slot ep answer,
    d.model.active = some position ∧ d.model.endpointAt? position slot = some ep ∧
    d.model.endpoint? number = some ep ∧ ep.direction = direction ∧
    ep.Handles d.model.speed (traffic.opened number d.link) traffic answer ∧
    result =
      ({ d with
          model := d.model.setEndpoint position slot answer.state
          link := answer.link },
        answer.failure)

/-- All traffic of a number in a direction reaches an endpoint of the direction. -/
def ServesDirection (d : Device) (number : UInt8) (direction : Direction) : Prop :=
  ∀ traffic : Traffic, traffic.direction = direction →
    d.Reaches number direction traffic (d.handleEvent (traffic.event number))

variable {d : Device} {position : Nat} {c : Configuration} {number : UInt8}

/-- Traffic that is delivered reaches an endpoint of a direction just if the last endpoint with the
number has the direction. -/
theorem Delivers.reaches_iff (h : d.model.Routed) (hactive : d.model.active = some position)
    (hc : d.model.configurations[position]? = some c) {traffic : Traffic}
    {result : Device × Option UsbError} (hdelivers : d.Delivers number traffic result)
    (direction : Direction) :
    d.Reaches number direction traffic result ↔ c.LastHas number direction := by
  obtain ⟨position', c', slot, ep, answer, hactive', hc', hdesignates, hep, hhandles, hresult, -⟩ :=
    hdelivers
  obtain rfl := Option.some.inj (hactive.symm.trans hactive')
  obtain rfl := Option.some.inj (hc.symm.trans hc')
  have hendpoint := h.endpoint?_of_designates hactive hc hdesignates hep
  constructor
  · rintro ⟨-, -, ep', -, -, -, hep', hdirection, -, -⟩
    obtain rfl := Option.some.inj (hendpoint.symm.trans hep')
    exact ⟨slot, ep, hdesignates, hep, hdirection⟩
  · rintro ⟨slot', ep', hdesignates', hep', hdirection⟩
    obtain rfl := hdesignates.unique hdesignates'
    obtain rfl := Option.some.inj (hep.symm.trans hep')
    refine ⟨position, slot, ep, answer, hactive, ?_, hendpoint, hdirection, hhandles, hresult⟩
    rw [Model.endpointAt?, hc, Option.bind_some, hep]

/-- A direction of a number is served if the last endpoint with the number has it. -/
theorem servesDirection_iff (h : d.model.Routed) (hstate : d.model.state = .configured)
    (hactive : d.model.active = some position)
    (hc : d.model.configurations[position]? = some c) (huses : c.Uses number)
    (direction : Direction) :
    d.ServesDirection number direction ↔ c.LastHas number direction := by
  have hnumber := (h.mem_endpointNumbers hactive hc number).2 huses
  have hiff (traffic : Traffic) := (delivers_handleEvent h hstate hnumber traffic).reaches_iff h
    hactive hc direction
  constructor
  · intro hserves
    obtain ⟨traffic, htraffic⟩ := Traffic.exists_direction direction
    exact (hiff traffic).1 (hserves traffic htraffic)
  · intro hlast traffic _
    exact (hiff traffic).2 hlast

/-- **Traffic reaches an endpoint of its direction if the last endpoint with its number is one.**
So a configuration serves all directions of a number that it has, unless it has both; then it serves
one of them.  It does so whatever happened to the device. -/
theorem servesDirection_after {g : Gadget} (hmade : g.model.Made)
    (hoverrides : ∀ e ∈ g.overrides.entries, Handler.KeepsRoutes e.2) (link : Link)
    (actions : List Action)
    (hstate : ((ofGadget g link).after actions).model.state = .configured)
    (hactive : ((ofGadget g link).after actions).model.active = some position)
    (hc : ((ofGadget g link).after actions).model.configurations[position]? = some c)
    (number : UInt8) :
    (∀ direction, c.Has number direction →
      (((ofGadget g link).after actions).ServesDirection number direction ↔
        c.LastHas number direction)) ∧
    ((∀ direction, c.Has number direction →
        ((ofGadget g link).after actions).ServesDirection number direction) ↔
      ¬ ∀ direction, c.Has number direction) := by
  have hrouted : ((ofGadget g link).after actions).model.Routed :=
    (Gadget.lasting_routed hoverrides).after (d := ofGadget g link) hmade.routed actions
  have hserves : ∀ direction, c.Has number direction →
      (((ofGadget g link).after actions).ServesDirection number direction ↔
        c.LastHas number direction) :=
    fun direction hdirection =>
      servesDirection_iff hrouted hstate hactive hc hdirection.uses direction
  refine ⟨hserves, ?_⟩
  rw [← Configuration.forall_lastHas_iff]
  exact forall_congr' fun direction => forall_congr' fun hdirection => hserves direction hdirection

end Device

/-- An interface with an OUT endpoint and an IN endpoint of the same number, which send back what
they get on endpoints of their own. -/
def Configuration.duplex : Configuration where
  interfaces :=
    [{ number := 0
       classCode := 0xff
       endpoints :=
         [{ Endpoint.ofNumber 1 .hostToDevice .bulk 64 with traffic := some (.custom (.echo 3)) },
          { Endpoint.ofNumber 1 .deviceToHost .bulk 64 with
            traffic := some (.custom (.echo 4)) }] }]

/-- The duplex device, connected and configured, is in its only configuration, and the number there
has both directions, the last of them IN. -/
theorem Configuration.duplex_has {m : Model} (h : Model.build {} [duplex] = .ok m) :
    let model := ((Device.ofGadget { model := m } {}).after
      [.connect, .event (.setup [0, 9, 1, 0, 0, 0, 0, 0])]).model
    model.state = .configured ∧ model.active = some 0 ∧
      ∃ c, model.configurations[0]? = some c ∧ (∀ direction, c.Has 1 direction) ∧
        c.LastHas 1 .deviceToHost := by
  cases h
  refine ⟨rfl, rfl, _, rfl, ?_, ?_⟩
  · intro direction
    refine ⟨_, List.mem_singleton_self _, ?_⟩
    cases direction with
    | hostToDevice => exact ⟨_, List.mem_cons_self, rfl, rfl⟩
    | deviceToHost => exact ⟨_, List.mem_cons_of_mem _ List.mem_cons_self, rfl, rfl⟩
  · exact ⟨⟨0, 1⟩, _, designates_of_find?_routes rfl, rfl, rfl⟩

/-- The hypotheses of `Device.servesDirection_after` are satisfiable: once the host has selected
the duplex configuration, not all directions of the number are served.  The IN endpoint, which is
the last one, is served; but it gets the data as well, and sends it back in place of the OUT
endpoint. -/
theorem Device.servesDirection_after_duplex :
    ∃ m, Model.build {} [.duplex] = .ok m ∧
      let d := (ofGadget { model := m } {}).after
        [.connect, .event (.setup [0, 9, 1, 0, 0, 0, 0, 0])]
      let fed := (d.handleEvent (.data 1 [0xaa])).1
      (∃ c, d.model.configurations[0]? = some c ∧ (∀ direction, c.Has 1 direction) ∧
        (¬ ∀ direction, c.Has 1 direction → d.ServesDirection 1 direction) ∧
        d.ServesDirection 1 .deviceToHost) ∧
      fed.link.transport.log = [.connect, .acknowledge, .send 4 [0xaa]] ∧
      (fed.handleEvent (.bufferAvailable 1)).1.link.transport.log =
        [.connect, .acknowledge, .send 4 [0xaa], .send 4 [1]] := by
  obtain ⟨m, hm⟩ : ∃ m, Model.build {} [.duplex] = .ok m := ⟨_, rfl⟩
  obtain ⟨hstate, hactive, c, hc, hboth, hlast⟩ := Configuration.duplex_has hm
  have hserves := servesDirection_after (.build hm) (List.forall_mem_nil _) {} _ hstate hactive hc 1
  refine ⟨m, hm, ⟨c, hc, hboth, fun hall => hserves.2.1 hall hboth, ?_⟩, ?_⟩
  · exact (hserves.1 .deviceToHost (hboth .deviceToHost)).2 hlast
  · cases hm
    exact ⟨rfl, rfl⟩

/-- Not every endpoint gets the traffic of its number and direction. -/
theorem Device.not_servesDirection_duplex :
    ¬ ∀ m : Model, m.Made → ∀ (link : Link) (actions : List Action) (position : Nat)
        (c : Configuration) (number : UInt8) (direction : Direction),
      let d := (ofGadget { model := m } link).after actions
      d.model.state = .configured → d.model.active = some position →
        d.model.configurations[position]? = some c → c.Has number direction →
        d.ServesDirection number direction := by
  intro h
  obtain ⟨m, hm⟩ : ∃ m, Model.build {} [.duplex] = .ok m := ⟨_, rfl⟩
  obtain ⟨hstate, hactive, c, hc, hboth, -⟩ := Configuration.duplex_has hm
  have hrouted := Model.lasting_routed.after (d := ofGadget { model := m } {})
    (Model.Made.build hm).routed [.connect, .event (.setup [0, 9, 1, 0, 0, 0, 0, 0])]
  apply c.not_lastHas_both 1
  intro direction
  exact (servesDirection_iff hrouted hstate hactive hc (hboth direction).uses direction).1
    (h m (.build hm) {} _ 0 c 1 direction hstate hactive hc (hboth direction))

end UsbGadget
