/-
# The control plane

A device keeps its address, whether it may wake up its host, and of every endpoint
whether that is halted.  The host writes these with standard requests, and reads
the last two back with the requests for the status.

| register | is written by requests to | of code | with value |
| --- | --- | --- | --- |
| address | the device | `05` | any: its low seven bits |
| remote wakeup | the device | `03`, `01` | 1 |
| halt | the endpoint that the number is routed to | `03`, `01` | 0 |

The same codes and values come in with other meanings for other recipients, and
in class and vendor requests, and which endpoint a number is routed to depends on
the configuration that is active at that moment.  Still each register holds what
was written last, and nothing else that happens to the device writes it
(`Device.controlPlane_after`).  One request writes the registers of the device by
`registers_handleRequest`, and a halt by `halted_handleRequest`; the runs follow
by `after_lastWrite`.
-/

import UsbGadget.Proofs.Arrivals
import UsbGadget.Proofs.Stock

namespace UsbGadget

/-! ### Who writes what -/

namespace Request

/-- The request is a standard one to the recipient. -/
def IsStandardTo (r : Request) (recipient : Recipient) : Prop :=
  r.kind = .standard ∧ r.recipient = recipient

instance (r : Request) (recipient : Recipient) : Decidable (r.IsStandardTo recipient) :=
  inferInstanceAs (Decidable (_ ∧ _))

/-- What the request makes of the feature that its value names, if it sets or clears it. -/
def featureSwitch? (r : Request) : Option Bool :=
  if r.code = RequestCode.setFeature then some true
  else if r.code = RequestCode.clearFeature then some false
  else none

/-- The address that the request writes, if it does. -/
def addressWrite? (r : Request) : Option UInt8 :=
  if r.IsStandardTo .device ∧ r.code = RequestCode.setAddress then
    some (UInt8.ofNat (r.value.toNat % 128))
  else none

/-- The remote wakeup that the request writes, if it does. -/
def wakeupWrite? (r : Request) : Option Bool :=
  if r.IsStandardTo .device ∧ r.value = Feature.deviceRemoteWakeup then r.featureSwitch? else none

end Request

/-- The request goes to the endpoint at a slot of the configuration at a position: its number is
routed there while that configuration is active. -/
def Device.Resolves (d : Device) (r : Request) (position : Nat) (slot : Slot) : Prop :=
  r.IsStandardTo .endpoint ∧ d.model.active = some position ∧
    d.model.routes.find? r.endpointNumber = some slot

instance (d : Device) (r : Request) (position : Nat) (slot : Slot) :
    Decidable (d.Resolves r position slot) :=
  inferInstanceAs (Decidable (_ ∧ _ ∧ _))

/-- The halt that a request writes which comes in, if it does, of the endpoint at a slot of the
configuration at a position. -/
def Device.haltWrite? (position : Nat) (slot : Slot) (x : Device × Request) : Option Bool :=
  if x.1.Resolves x.2 position slot ∧ x.2.value = Feature.endpointHalt then x.2.featureSwitch?
  else none

/-- A request sets a feature, clears it, or has another code. -/
theorem Request.featureSwitch?_cases (r : Request) :
    (∃ on : Bool, r.featureSwitch? = some on ∧
        r.code = if on then RequestCode.setFeature else RequestCode.clearFeature) ∨
      r.featureSwitch? = none ∧ r.code ≠ RequestCode.setFeature ∧
        r.code ≠ RequestCode.clearFeature := by
  unfold featureSwitch?
  by_cases hset : r.code = RequestCode.setFeature
  · exact .inl ⟨true, if_pos hset, hset⟩
  · rw [if_neg hset]
    by_cases hclear : r.code = RequestCode.clearFeature
    · exact .inl ⟨false, if_pos hclear, hclear⟩
    · exact .inr ⟨if_neg hclear, hset, hclear⟩

/-! ### The registers of the device -/

namespace StandardRequests

/-- The handler leaves the address and the remote wakeup alone. -/
def KeepsRegisters (h : Handler Model) : Prop :=
  ∀ speed r link m, (h speed r link m).state.address = m.address ∧
    (h speed r link m).state.remoteWakeup = m.remoteWakeup

/-- SET_CONFIGURATION leaves the address and the remote-wakeup flag alone. -/
theorem keepsRegisters_setConfiguration : KeepsRegisters setConfiguration := by
  intro speed r link m
  unfold setConfiguration
  split
  · next m' h =>
    rw [Link.state_acknowledge]
    rcases Model.eq_of_selectConfiguration? h with ⟨-, rfl⟩ | ⟨position, c, -, -, -, rfl⟩
    · exact ⟨rfl, rfl⟩
    · exact ⟨rfl, rfl⟩
  · rw [Link.state_stall]
    exact ⟨rfl, rfl⟩

/-- Only four of the standard requests change anything. -/
theorem state_lookup {code : UInt8} (haddress : code ≠ RequestCode.setAddress)
    (hset : code ≠ RequestCode.setFeature) (hclear : code ≠ RequestCode.clearFeature)
    (hselect : code ≠ RequestCode.setConfiguration) (speed : Speed) (r : Request) (link : Link)
    (m : Model) : (requests.lookup code speed r link m).state = m := by
  refine RequestTable.lookup_of_forall
    (P := fun h : Handler Model => (h speed r link m).state = m) (link.state_replyEmpty m) ?_
  intro e he hcode
  have hlisted := Table.mem_ofList he
  simp only [List.mem_cons, List.not_mem_nil, or_false] at hlisted
  rcases hlisted with rfl | rfl | rfl | rfl | rfl | rfl | rfl | rfl | rfl | rfl | rfl | rfl
  · exact link.state_reply ..
  · exact absurd hcode.symm hclear
  · exact absurd hcode.symm hset
  · exact absurd hcode.symm haddress
  · exact state_getDescriptor speed r link m
  · exact link.state_stall m
  · exact link.state_reply ..
  · exact absurd hcode.symm hselect
  · exact state_getInterface speed r link m
  · exact link.state_replyEmpty m
  · exact link.state_stall m
  · exact link.state_reply ..

/-- Only three of the standard requests write registers. -/
theorem keepsRegisters_lookup {code : UInt8} (haddress : code ≠ RequestCode.setAddress)
    (hset : code ≠ RequestCode.setFeature) (hclear : code ≠ RequestCode.clearFeature) :
    KeepsRegisters (requests.lookup code) := by
  by_cases hselect : code = RequestCode.setConfiguration
  · have hlookup : requests.lookup code = setConfiguration := by
      rw [hselect]
      rfl
    rw [hlookup]
    exact keepsRegisters_setConfiguration
  · intro speed r link m
    rw [state_lookup haddress hset hclear hselect]
    exact ⟨rfl, rfl⟩

/-- Masking an address with `0x7f` keeps it modulo 128. -/
theorem toUInt8_and_127 (value : UInt16) :
    (value &&& 0x7f).toUInt8 = UInt8.ofNat (value.toNat % 128) := by
  have hand : (value &&& 0x7f).toNat = value.toNat % 128 := by
    rw [UInt16.toNat_and]
    exact Nat.and_two_pow_sub_one_eq_mod value.toNat 7
  rw [← UInt8.toNat_inj, UInt16.toNat_toUInt8, hand, UInt8.toNat_ofNat']

variable {r : Request}

/-- A standard request to the device writes its registers by the table. -/
theorem registers_dispatch (hr : r.IsStandardTo .device) (speed : Speed) (link : Link) (m : Model) :
    (requests.dispatch speed r link m).state.address = r.addressWrite?.getD m.address ∧
      (requests.dispatch speed r link m).state.remoteWakeup =
        r.wakeupWrite?.getD m.remoteWakeup := by
  unfold RequestTable.dispatch Request.addressWrite? Request.wakeupWrite?
  by_cases haddress : r.code = RequestCode.setAddress
  · have hlookup : requests.lookup r.code = setAddress := by
      rw [haddress]
      rfl
    have hswitch : r.featureSwitch? = none := by
      rw [Request.featureSwitch?, haddress]
      rfl
    rw [hlookup, setAddress, Link.state_acknowledge, if_pos ⟨hr, haddress⟩, hswitch, ite_self,
      toUInt8_and_127]
    exact ⟨rfl, rfl⟩
  · rw [if_neg fun h => haddress h.2]
    rcases r.featureSwitch?_cases with ⟨on, hswitch, hcode⟩ | ⟨hswitch, hset, hclear⟩
    · have hlookup : requests.lookup r.code = changeFeature on := by
        rw [hcode]
        cases on <;> rfl
      rw [hlookup, changeFeature, Link.state_acknowledge, hswitch]
      by_cases hvalue : r.value = Feature.deviceRemoteWakeup
      · rw [if_pos hvalue, if_pos ⟨hr, hvalue⟩]
        exact ⟨rfl, rfl⟩
      · rw [if_neg hvalue, if_neg fun h => hvalue h.2]
        exact ⟨rfl, rfl⟩
    · rw [hswitch, ite_self]
      exact keepsRegisters_lookup haddress hset hclear speed r link m

/-- The status holds the two bits, and nothing else. -/
theorem status_bits (m : Model) : status m < 4 ∧
    (status m).toNat.testBit 0 = ((statusConfiguration? m).getD {}).isSelfPowered ∧
      (status m).toNat.testBit 1 = m.remoteWakeup := by
  unfold status
  cases ((statusConfiguration? m).getD {}).isSelfPowered <;> cases m.remoteWakeup <;> decide

end StandardRequests

namespace Device

variable {d : Device}

/-- A standard request to the device is served by what the standard table has for its code. -/
theorem handleRequest_of_lookup {r : Request} {code : UInt8} {h : Handler Model}
    (hd : d.requests = StandardRequests.requests) (hr : r.IsStandardTo .device)
    (hcode : r.code = code) (hlookup : StandardRequests.requests.lookup code = h) :
    d.handleRequest r =
      d.afterAnswer (h d.model.speed r (d.link.note .setupReceived) d.model) := by
  rw [handleRequest_of_target_eq_device (Request.target_eq_device_iff.2 hr), RequestTable.dispatch,
    hd, hcode, hlookup]

/-- After a request, each register has the value that the request wrote, and else the old one. -/
theorem registers_handleRequest (hd : d.requests = StandardRequests.requests) (r : Request) :
    (d.handleRequest r).1.model.address = r.addressWrite?.getD d.model.address ∧
      (d.handleRequest r).1.model.remoteWakeup = r.wakeupWrite?.getD d.model.remoteWakeup := by
  by_cases htarget : r.target d.model.policy = .device
  · rw [handleRequest_of_target_eq_device htarget, hd]
    exact StandardRequests.registers_dispatch (Request.target_eq_device_iff.1 htarget) ..
  · have hr : ¬ r.IsStandardTo .device := fun hr => htarget (Request.target_eq_device_iff.2 hr)
    have hshape := shape_handleRequest htarget
    rw [Request.addressWrite?, if_neg fun h => hr h.1, Request.wakeupWrite?,
      if_neg fun h => hr h.1]
    exact ⟨congrArg (·.address) hshape, congrArg (·.remoteWakeup) hshape⟩

/-- After a run the registers of the device hold what was written last. -/
theorem registers_after (hd : d.requests = StandardRequests.requests) (actions : List Action) :
    (d.after actions).model.address =
        lastWrite (·.2.addressWrite?) d.model.address (d.arrivals actions) ∧
      (d.after actions).model.remoteWakeup =
        lastWrite (·.2.wakeupWrite?) d.model.remoteWakeup (d.arrivals actions) := by
  constructor
  · refine after_lastWrite (P := fun d' b => d'.model.address = b) ?_ ?_ hd rfl actions
    · rintro d' a b - ha rfl
      obtain ⟨state, hshape⟩ := shape_act_of_request?_eq_none ha d'
      exact congrArg (·.address) hshape
    · rintro d' b r hd' rfl
      exact (registers_handleRequest hd' r).1
  · refine after_lastWrite (P := fun d' b => d'.model.remoteWakeup = b) ?_ ?_ hd rfl actions
    · rintro d' a b - ha rfl
      obtain ⟨state, hshape⟩ := shape_act_of_request?_eq_none ha d'
      exact congrArg (·.remoteWakeup) hshape
    · rintro d' b r hd' rfl
      exact (registers_handleRequest hd' r).2

end Device

/-! ### The halts of the endpoints -/

/-- What a request to an endpoint makes of its halt. -/
theorem Endpoint.Status.halted_dispatch (speed : Speed) (r : Request) (link : Link) (s : Status) :
    (requests.dispatch speed r link s).state.halted =
      (if r.value = Feature.endpointHalt then r.featureSwitch? else none).getD s.halted := by
  unfold RequestTable.dispatch
  rcases r.featureSwitch?_cases with ⟨on, hswitch, hcode⟩ | ⟨hswitch, hset, hclear⟩
  · have hlookup : requests.lookup r.code = changeFeature on := by
      rw [hcode]
      cases on <;> rfl
    rw [hlookup, changeFeature, Link.state_replyEmpty, hswitch]
    split <;> rfl
  · rw [hswitch, ite_self, Option.getD_none]
    refine RequestTable.lookup_of_forall
      (P := fun h : Handler Status => (h speed r link s).state.halted = s.halted) ?_ ?_
    · exact congrArg _ (link.state_replyEmpty s)
    · intro e he hcode
      have hlisted := Table.mem_ofList he
      simp only [List.mem_cons, List.not_mem_nil, or_false] at hlisted
      rcases hlisted with rfl | rfl | rfl
      · exact congrArg _ (link.state_reply ..)
      · exact absurd hcode.symm hclear
      · exact absurd hcode.symm hset

/-- The endpoint at a slot keeps its status there. -/
theorem Model.stateOf?_status (m : Model) (position : Nat) (slot : Slot) :
    m.stateOf? ⟨position, slot.interface, .endpoint slot.endpoint .status⟩ =
      (m.endpointAt? position slot).map fun ep => .endpoint ep.status := by
  show ((m.configurations[position]?).bind fun c => (c.interfaces[slot.interface]?).bind fun i =>
    (i.endpoints[slot.endpoint]?).bind fun ep => some (EntityState.endpoint ep.status)) = _
  simp only [endpointAt?, Configuration.endpointAt?, Option.map_eq_bind, Option.bind_assoc,
    Function.comp_def]

/-- The parts of the tree serve the standard requests for good. -/
theorem Model.lasting_standard :
    Device.Lasting StandardRequests.requests (Model.Each Interface.Standard) :=
  lasting_each Interface.standard_shape_iff fun code speed r link m =>
    (StandardRequests.hasEffect_lookup code speed r link m).configurations_eq

/-- A status that the model tells of an endpoint is the status of the endpoint in that slot. -/
theorem Model.exists_endpointAt? {m : Model} {position : Nat} {slot : Slot}
    {status : Endpoint.Status}
    (h : m.stateOf? ⟨position, slot.interface, .endpoint slot.endpoint .status⟩ =
      some (.endpoint status)) :
    ∃ ep, m.endpointAt? position slot = some ep ∧ ep.status = status := by
  rw [stateOf?_status] at h
  obtain ⟨ep, hep, hstatus⟩ := Option.map_eq_some_iff.1 h
  exact ⟨ep, hep, EntityState.endpoint.inj hstatus⟩

/-- A property of every interface holds of the interface that an endpoint slot lies in. -/
theorem Model.Each.endpointAt? {Q : Interface → Prop} {m : Model} (hm : m.Each Q) {position : Nat}
    {slot : Slot} {ep : Endpoint} (h : m.endpointAt? position slot = some ep) :
    ∃ i, Q i ∧ ep ∈ i.endpoints := by
  obtain ⟨c, hc, h⟩ := Option.bind_eq_some_iff.1 h
  obtain ⟨i, hi, hep⟩ := Configuration.endpointAt?_eq_some_iff.1 h
  exact ⟨i, hm c (List.mem_of_getElem? hc) i (List.mem_of_getElem? hi), List.mem_of_getElem? hep⟩

namespace Device

variable {d : Device} {position : Nat} {slot : Slot} {ep : Endpoint} {r : Request}

/-- The endpoint that a request resolves to serves it. -/
theorem Resolves.serves (h : d.Resolves r position slot)
    (hep : d.model.endpointAt? position slot = some ep) :
    d.model.Serves r ⟨position, slot.interface, .endpoint slot.endpoint .status⟩
      fun link => (ep.requests.dispatch d.model.speed r link ep.status).map .endpoint := by
  obtain ⟨⟨hkind, hrecipient⟩, hactive, hroute⟩ := h
  obtain ⟨c, hc, hep⟩ := Option.bind_eq_some_iff.1 hep
  exact ⟨_, .endpoint hkind hrecipient r.toNat_endpointNumber, .endpoint ⟨hactive, hc⟩ hroute hep⟩

/-- A request served by the status of a slot is one that resolves to that slot. -/
theorem resolves_of_serves {serve : Link → Answer EntityState}
    (h : d.model.Serves r ⟨position, slot.interface, .endpoint slot.endpoint .status⟩ serve) :
    d.Resolves r position slot := by
  obtain ⟨n, place⟩ := slot
  obtain ⟨target, haddresses, hhosts⟩ := h
  cases hhosts with
  | @endpoint _ _ number slot _ hactive hroute =>
    obtain ⟨n, place⟩ := slot
    cases haddresses with
    | endpoint hkind hrecipient hnumber =>
      obtain rfl : number = r.endpointNumber :=
        UInt8.toNat_inj.1 (hnumber.trans r.toNat_endpointNumber.symm)
      exact ⟨⟨hkind, hrecipient⟩, hactive.1, hroute⟩
  | function _ hoffers =>
    obtain ⟨i, -, hpart⟩ := hoffers.offers
    cases hpart

/-- The endpoint in a slot gives the status that the model tells of the slot. -/
theorem stateOf?_status_of_endpointAt? (hep : d.model.endpointAt? position slot = some ep) :
    d.model.stateOf? ⟨position, slot.interface, .endpoint slot.endpoint .status⟩ =
      some (.endpoint ep.status) := by
  rw [Model.stateOf?_status, hep, Option.map_some]

/-- A request that resolves to an endpoint and sets or clears the halt writes it, and every other
request leaves it alone. -/
theorem halted_handleRequest (hd : d.requests = StandardRequests.requests)
    (hstandard : d.model.Each Interface.Standard)
    (hep : d.model.endpointAt? position slot = some ep) (r : Request) :
    ∃ ep', (d.handleRequest r).1.model.endpointAt? position slot = some ep' ∧
      ep'.status.halted = (haltWrite? position slot (d, r)).getD ep.status.halted := by
  unfold haltWrite?
  by_cases hresolves : d.Resolves r position slot
  · obtain ⟨i, hi, hmem⟩ := hstandard.endpointAt? hep
    have hserved := (isServedBy (hresolves.serves hep)).state
    rw [hi.endpoints ep hmem] at hserved
    obtain ⟨ep', hep', hstatus⟩ := Model.exists_endpointAt? hserved
    refine ⟨ep', hep', ?_⟩
    rw [hstatus, Endpoint.Status.halted_dispatch]
    simp only [hresolves, true_and]
  · have hkept := stateOf?_handleRequest_of_not_serves
      (hd ▸ fun code => StandardRequests.spares_lookup code _)
      fun serve hserves => hresolves (resolves_of_serves hserves)
    rw [stateOf?_status_of_endpointAt? hep] at hkept
    obtain ⟨ep', hep', hstatus⟩ := Model.exists_endpointAt? hkept
    refine ⟨ep', hep', ?_⟩
    rw [hstatus, if_neg fun h => hresolves h.1, Option.getD_none]

/-- After a run the halt of an endpoint is what was written last. -/
theorem halted_after (hd : d.requests = StandardRequests.requests)
    (hstandard : d.model.Each Interface.Standard)
    (hep : d.model.endpointAt? position slot = some ep) (actions : List Action) :
    ∃ ep', (d.after actions).model.endpointAt? position slot = some ep' ∧
      ep'.status.halted =
        lastWrite (haltWrite? position slot) ep.status.halted (d.arrivals actions) := by
  refine (after_lastWrite (P := fun d' b => d'.model.Each Interface.Standard ∧
    ∃ ep', d'.model.endpointAt? position slot = some ep' ∧ ep'.status.halted = b) ?_ ?_ hd
    ⟨hstandard, ep, hep, rfl⟩ actions).2
  · rintro d' a b hd' ha ⟨hstandard', ep₁, hep₁, rfl⟩
    refine ⟨Lasting.act (hd' ▸ Model.lasting_standard) hstandard' a, ?_⟩
    have hkept := stateOf?_act_of_request?_eq_none
      (e := ⟨position, slot.interface, .endpoint slot.endpoint .status⟩) (by simp) ha d'
    rw [stateOf?_status_of_endpointAt? hep₁] at hkept
    obtain ⟨ep₂, hep₂, hstatus⟩ := Model.exists_endpointAt? hkept
    exact ⟨ep₂, hep₂, congrArg _ hstatus⟩
  · rintro d' b r hd' ⟨hstandard', ep₁, hep₁, rfl⟩
    exact ⟨Lasting.handleRequest (hd' ▸ Model.lasting_standard) hstandard' r,
      halted_handleRequest hd' hstandard' hep₁ r⟩

end Device

/-! ### What the host reads back -/

/-- The configuration whose attributes the status reports: the active one, or else the first. -/
def Model.reported? (m : Model) (active : Option Nat) : Option Configuration :=
  match active with
  | some position => m.configurations[position]?
  | none => m.configurations.head?

/-- The model has a configuration, no address, and may not wake up the host. -/
structure Model.Blank (m : Model) : Prop where
  configurations : m.configurations ≠ []
  address : m.address = 0
  remoteWakeup : m.remoteWakeup = false

/-- A model in the state in which it was made has every status blank. -/
theorem Model.Made.blank {m : Model} (h : m.Made) : m.Blank := by
  refine Made.induct ?_ ?_ ?_ h
  · intro info configurations m hbuild
    unfold Model.build at hbuild
    split_ifs at hbuild with hempty
    cases hbuild
    refine ⟨?_, rfl, rfl⟩
    cases configurations with
    | nil => exact absurd rfl hempty
    | cons c cs => exact List.cons_ne_nil _ _
  · exact fun m info strings speed policy store hblank => ⟨hblank.1, hblank.2, hblank.3⟩
  · intro value m m' hblank hselect
    rcases Model.eq_of_selectConfiguration? hselect with ⟨-, rfl⟩ | ⟨position, c, -, -, -, rfl⟩
    · exact ⟨hblank.1, hblank.2, hblank.3⟩
    · exact ⟨hblank.1, hblank.2, hblank.3⟩

/-- The shape of the tree stays. -/
theorem Model.lasting_tree (tree : List Configuration) :
    Device.Lasting StandardRequests.requests fun m => m.configurations.map (·.shape) = tree where
  shape m m' hshape h := by
    have htree := congrArg (·.configurations) hshape
    exact htree.trans h
  state _ _ h := h
  request speed r link m h := by
    rw [(StandardRequests.effect speed r link m).configurations_eq]
    exact h

/-- Whether a configuration is self-powered is part of its shape. -/
theorem Configuration.isSelfPowered_of_shape {c c' : Configuration} (h : c'.shape = c.shape) :
    c'.isSelfPowered = c.isSelfPowered :=
  congrArg (·.isSelfPowered) h

/-- The power that the status reports is that of a configuration which the model had at the
start. -/
theorem Model.isSelfPowered_statusConfiguration? {m m' : Model} (hm : m.configurations ≠ [])
    (htree : m'.configurations.map (·.shape) = m.configurations.map (·.shape))
    (hrouted : m'.Routed) :
    ∃ c, m.reported? m'.active = some c ∧
      ((StandardRequests.statusConfiguration? m').getD {}).isSelfPowered = c.isSelfPowered := by
  unfold StandardRequests.statusConfiguration? activeConfiguration?
  cases hactive : m'.active with
  | some position =>
    obtain ⟨c', hc', -⟩ := hrouted.active position hactive
    obtain ⟨c, hc, hshape⟩ := exists_getElem?_of_map_eq htree.symm hc'
    refine ⟨c, hc, ?_⟩
    rw [Option.bind_some, hc']
    exact Configuration.isSelfPowered_of_shape hshape.symm
  | none =>
    obtain ⟨c, cs, hcs⟩ := List.exists_cons_of_ne_nil hm
    rw [hcs, List.map_cons] at htree
    obtain ⟨c', cs', hcs', hshape, -⟩ := List.map_eq_cons_iff.1 htree
    refine ⟨c, ?_, ?_⟩
    · rw [reported?, hcs, List.head?_cons]
    · rw [hcs', List.head?_cons]
      exact Configuration.isSelfPowered_of_shape hshape

namespace Device

/-- The device answers the request with the data, of which the host gets what it takes. -/
def Replies (d : Device) (r : Request) (data : Bytes) : Prop :=
  (d.handleRequest r).2 = none ∧
    (d.handleRequest r).1.link.transport.log =
      d.link.transport.log ++ [.send 0 (data.take r.length.toNat)]

variable {d : Device} {r : Request} {data : Bytes}

/-- An outcome that hands out data on a connected transport is a reply with these bytes. -/
theorem replies_of_outcome {σ : Type} {link : Link} {s : σ}
    (htransport : link.transport = d.link.transport)
    (hconnected : d.link.transport.connected = true)
    (h : ((d.handleRequest r).1.link, (d.handleRequest r).2) = (link.reply r data s).outcome) :
    d.Replies r data := by
  rw [Link.reply_of_connected (htransport ▸ hconnected)] at h
  obtain ⟨hlink, hfailure⟩ := Prod.mk.inj h
  refine ⟨hfailure, ?_⟩
  rw [hlink, htransport]
  rfl

/-- GET_STATUS of the device replies with its two status bits. -/
theorem replies_status (hd : d.requests = StandardRequests.requests)
    (hconnected : d.link.transport.connected = true) (hr : r.IsStandardTo .device)
    (hcode : r.code = RequestCode.getStatus) :
    d.Replies r [StandardRequests.status d.model, 0] := by
  have hnoted : (d.link.note .setupReceived).transport = d.link.transport := rfl
  refine replies_of_outcome (s := d.model) hnoted hconnected ?_
  rw [handleRequest_of_lookup hd hr hcode (h := StandardRequests.getStatus) rfl]
  rfl

/-- GET_STATUS of an endpoint replies with its halt flag. -/
theorem replies_endpointStatus (hstandard : d.model.Each Interface.Standard)
    (hconnected : d.link.transport.connected = true) {position : Nat} {slot : Slot}
    {ep : Endpoint} (hresolves : d.Resolves r position slot)
    (hep : d.model.endpointAt? position slot = some ep) (hcode : r.code = RequestCode.getStatus) :
    d.Replies r [if ep.status.halted then 1 else 0, 0] := by
  have hnoted : (d.link.note .setupReceived).transport = d.link.transport := rfl
  refine replies_of_outcome (s := ep.status) hnoted hconnected ?_
  obtain ⟨i, hi, hmem⟩ := hstandard.endpointAt? hep
  have hlookup : ep.requests.lookup r.code = Endpoint.Status.getStatus := by
    rw [hi.endpoints ep hmem, hcode]
    rfl
  rw [(isServedBy (hresolves.serves hep)).answer, RequestTable.dispatch, hlookup]
  rfl

/-- The registers of a device that took in the requests, where `m` is its model at the start, and
what the host reads back of them.

* The address and the remote wakeup are 0 and off at first, and then what was written last; the halt
  of an endpoint is what it was at first, and then what was written last.
* Bit 0 of the status is whether the active configuration, or else the first one, has power of its
  own, and bit 1 is the remote wakeup; the other bits are 0.
* The status of an endpoint is its halt. -/
structure ControlPlane (m : Model) (arrivals : List (Device × Request)) (d : Device) : Prop where
  address : d.model.address = lastWrite (·.2.addressWrite?) 0 arrivals
  remoteWakeup : d.model.remoteWakeup = lastWrite (·.2.wakeupWrite?) false arrivals
  halted : ∀ position slot ep, m.endpointAt? position slot = some ep →
    ∃ ep', d.model.endpointAt? position slot = some ep' ∧
      ep'.status.halted = lastWrite (haltWrite? position slot) ep.status.halted arrivals
  status : ∀ r : Request, d.link.transport.connected = true → r.IsStandardTo .device →
    r.code = RequestCode.getStatus →
      ∃ status c, d.Replies r [status, 0] ∧ m.reported? d.model.active = some c ∧ status < 4 ∧
        status.toNat.testBit 0 = c.isSelfPowered ∧
          status.toNat.testBit 1 = lastWrite (·.2.wakeupWrite?) false arrivals
  endpointStatus : ∀ (r : Request) position slot ep, d.link.transport.connected = true →
    d.Resolves r position slot → r.code = RequestCode.getStatus →
      m.endpointAt? position slot = some ep →
        d.Replies r
          [if lastWrite (haltWrite? position slot) ep.status.halted arrivals then 1 else 0, 0]

/-- **The registers of a device hold what was written last.**  Whatever happens to a device with the
standard requests, its address, its remote wakeup and the halts of its endpoints are those that the
last request wrote which writes them at all, and so the host reads them back. -/
theorem controlPlane_after {m : Model} (hm : m.Made) (hstandard : m.Each Interface.Standard)
    (link : Link) (actions : List Action) :
    let d := ofGadget { model := m } link
    ControlPlane m (d.arrivals actions) (d.after actions) := by
  intro d
  have hd : (d.after actions).requests = StandardRequests.requests := requests_after d actions
  have hstandard' := Model.lasting_standard.after (d := d) hstandard actions
  obtain ⟨haddress, hwakeup⟩ := registers_after (d := d) rfl actions
  have hhalted {position slot ep} (hep : m.endpointAt? position slot = some ep) :=
    halted_after (d := d) rfl hstandard hep actions
  rw [show d.model.address = 0 from hm.blank.address] at haddress
  rw [show d.model.remoteWakeup = false from hm.blank.remoteWakeup] at hwakeup
  refine ⟨haddress, hwakeup, fun _ _ _ => hhalted, ?_, ?_⟩
  · intro r hconnected hr hcode
    have htree := (Model.lasting_tree (m.configurations.map (·.shape))).after (d := d) rfl actions
    have hrouted := Model.lasting_routed.after (d := d) hm.routed actions
    obtain ⟨c, hc, hpower⟩ :=
      Model.isSelfPowered_statusConfiguration? hm.blank.configurations htree hrouted
    obtain ⟨hlt, hbit₀, hbit₁⟩ := StandardRequests.status_bits (d.after actions).model
    exact ⟨_, c, replies_status hd hconnected hr hcode, hc, hlt, hbit₀.trans hpower,
      hbit₁.trans hwakeup⟩
  · intro r position slot ep hconnected hresolves hcode hep
    obtain ⟨ep', hep', hhalt⟩ := hhalted hep
    have hreplies := replies_endpointStatus hstandard' hconnected hresolves hep' hcode
    rw [hhalt] at hreplies
    exact hreplies

/-- The hypotheses of `Device.controlPlane_after` are satisfiable: of the address only seven bits
count, of two endpoints that share a number the one is halted that the number is routed to, and a
class request of the code that clears a halt clears none. -/
theorem controlPlane_after_shared :
    ∃ m, Model.build {} [.shared] = .ok m ∧
      let d := ofGadget { model := m } {}
      let actions : List Action :=
        [.connect, .event (.setup [0, 5, 0x85, 0, 0, 0, 0, 0]),
          .event (.setup [0, 9, 1, 0, 0, 0, 0, 0]), .event (.setup [2, 3, 0, 0, 0x81, 0, 0, 0]),
          .event (.setup [0, 3, 1, 0, 0, 0, 0, 0]), .event (.setup [0x22, 1, 0, 0, 0x81, 0, 0, 0])]
      let ask : Request :=
        { requestType := 0x82, code := RequestCode.getStatus, index := 1, length := 2 }
      ControlPlane m (d.arrivals actions) (d.after actions) ∧
        (d.after actions).model.address = 5 ∧ (d.after actions).model.remoteWakeup = true ∧
        (d.after actions).Replies ask [1, 0] ∧
        ∃ ep, (d.after actions).model.endpointAt? 0 ⟨0, 0⟩ = some ep ∧
          ep.status.halted = false := by
  obtain ⟨m, hm⟩ : ∃ m, Model.build {} [.shared] = .ok m := ⟨_, rfl⟩
  have hstandard : m.Each Interface.Standard := by
    refine Model.each_build (fun i index h => ⟨h.requests, h.endpoints⟩) hm ?_
    refine List.forall_mem_singleton.2 (List.forall_mem_cons.2 ⟨⟨rfl, ?_⟩,
      List.forall_mem_singleton.2 ⟨rfl, ?_⟩⟩)
    · exact List.forall_mem_singleton.2 rfl
    · exact List.forall_mem_singleton.2 rfl
  refine ⟨m, hm, ?_⟩
  intro d actions ask
  have h := controlPlane_after (.build hm) hstandard {} actions
  cases hm
  obtain ⟨ep, hep, hhalted⟩ := h.halted 0 ⟨0, 0⟩ _ rfl
  refine ⟨h, h.address.trans (by decide +kernel), h.remoteWakeup.trans (by decide +kernel), ?_, ep,
    hep, hhalted.trans (by decide +kernel)⟩
  have hresolves : (d.after actions).Resolves ask 0 ⟨1, 0⟩ := by decide +kernel
  exact h.endpointStatus ask 0 ⟨1, 0⟩ _ rfl hresolves rfl rfl

end Device

end UsbGadget
