/-
# Stock gadgets

The gadgets whose handlers are all known: the built-in profiles, and all models
whose parts serve the standard requests and whose handlers are those of a serial
line, of a hub, or have no requests of their own.

Every part of them answers once (`Interface.Stock.answered`, `endpoint_answered`,
`Gadget.Stock.answers_lookup`).  Standard gadgets serve the standard requests as
well, but their handlers may be of one's own making.  What a part serves with
belongs to its shape (`Interface.standard_shape_iff`, `stock_shape_iff`), and the
device's own table leaves the tree alone (`Gadget.Standard.configurations_lookup`),
so what holds of all interfaces at the start still does after all that happens
(`Gadget.Standard.each_after`).  A gadget of a profile has the interfaces of the
profile (`Profile.each_of_interfaces`), which are stock ones
(`Profile.stock_interfaces`).
-/

import UsbGadget.Proofs.Answering
import UsbGadget.Proofs.Tree

namespace UsbGadget

/-- The interface and its endpoints serve the standard requests. -/
structure Interface.Standard (i : Interface) : Prop where
  requests : i.requests = Interface.State.requests
  endpoints : ∀ ep ∈ i.endpoints, ep.requests = Endpoint.Status.requests

/-- The interface and its endpoints serve the standard requests, and all their handlers are
stock. -/
structure Interface.Stock (i : Interface) : Prop where
  requests : i.requests = Interface.State.requests
  endpoints : ∀ ep ∈ i.endpoints, ep.requests = Endpoint.Status.requests
  handlers : ∀ kind h, i.Carries kind h → h.IsStock

/-- No vendor handler is that of a serial line. -/
def Interface.ReservesCdc (i : Interface) : Prop := ∀ h, i.Carries .vendorSpecific h → ¬ h.IsCdc

/-- An interface is stock if it serves the standard requests and all handlers that it carries are
stock. -/
theorem Interface.stock_iff (i : Interface) :
    i.Stock ↔ i.Standard ∧ ∀ kind h, i.Carries kind h → h.IsStock :=
  ⟨fun h => ⟨⟨h.requests, h.endpoints⟩, h.handlers⟩,
    fun h => ⟨h.1.requests, h.1.endpoints, h.2⟩⟩

namespace Interface.Stock

variable {i : Interface} {link : Link}

/-- A stock interface answers every standard request. -/
theorem answered (h : i.Stock) (hconnected : link.transport.connected = true) (speed : Speed)
    (r : Request) : link.Answered r (i.serve speed r link).outcome := by
  unfold Interface.serve
  rw [Answer.outcome_map, h.requests]
  exact Interface.State.answers_lookup r.code speed r link i.state hconnected

/-- The endpoints of a stock interface answer every standard request. -/
theorem endpoint_answered (h : i.Stock) {ep : Endpoint} (hep : ep ∈ i.endpoints)
    (hconnected : link.transport.connected = true) (speed : Speed) (r : Request) :
    link.Answered r (ep.serve speed r link).outcome := by
  unfold Endpoint.serve
  rw [Answer.outcome_map, h.endpoints ep hep]
  exact Endpoint.Status.answers_lookup r.code speed r link ep.status hconnected

end Interface.Stock

namespace Interface

/-- Whether an interface serves the standard requests is a matter of its shape. -/
theorem standard_shape_iff (i : Interface) : i.shape.Standard ↔ i.Standard := by
  constructor
  · intro h
    exact ⟨h.requests, fun ep hep => h.endpoints ep.shape (List.mem_map_of_mem hep)⟩
  · intro h
    refine ⟨h.requests, ?_⟩
    intro ep' hep'
    obtain ⟨ep, hep, rfl⟩ := List.mem_map.1 hep'
    exact h.endpoints ep hep

/-- Whether an interface is stock is a matter of its shape. -/
theorem stock_shape_iff (i : Interface) : i.shape.Stock ↔ i.Stock := by
  have hhandlers : (∀ kind h, i.shape.Carries kind h → h.IsStock) ↔
      ∀ kind h, i.Carries kind h → h.IsStock :=
    forall_congr' fun kind => forall_carries_shape_iff fun h => by cases h <;> rfl
  rw [stock_iff, stock_iff, standard_shape_iff, hhandlers]

/-- Whether an interface reserves serial lines for class requests is a matter of its shape. -/
theorem reservesCdc_shape_iff (i : Interface) : i.shape.ReservesCdc ↔ i.ReservesCdc :=
  forall_carries_shape_iff fun h => by cases h <;> rfl

end Interface

/-- The gadgets whose handlers are all known: the built-in profiles, and the models that replace no
requests and whose handlers are stock. -/
inductive Gadget.Stock : Gadget → Prop where
  | profile (p : Profile) (o : ProfileOptions) {g : Gadget} (h : p.build o = .ok g) : Stock g
  | plain {m : Model} (h : m.Each Interface.Stock) : Stock { model := m }

/-- An interface without a vendor handler, and with endpoints that have no handlers of requests,
carries its class handler alone. -/
theorem Interface.Carries.eq_classHandler {i : Interface} {kind : HandlerKind} {h : FunctionHandler}
    (hc : i.Carries kind h) (hendpoints : ∀ ep ∈ i.endpoints, ep.functions = {})
    (hvendor : i.functions.vendorHandler = none) :
    kind = .classSpecific ∧ i.functions.classHandler = some h := by
  rcases hc with hget | ⟨ep, hep, hget⟩
  · cases kind with
    | classSpecific => exact ⟨rfl, hget⟩
    | vendorSpecific =>
      rw [Functions.get?, hvendor] at hget
      cases hget
  · rw [hendpoints ep hep] at hget
    cases kind <;> cases hget

/-- An interface with at most a class handler, which is stock, and with endpoints that have no
handlers of requests. -/
theorem Interface.stock_of_classHandler {i : Interface} (hrequests : i.requests = State.requests)
    (hendpoints : ∀ ep ∈ i.endpoints,
      ep.requests = Endpoint.Status.requests ∧ ep.functions = {})
    (hclass : ∀ h, i.functions.classHandler = some h → h.IsStock)
    (hvendor : i.functions.vendorHandler = none) : i.Stock ∧ i.ReservesCdc := by
  have hfunctions : ∀ ep ∈ i.endpoints, ep.functions = {} := fun ep hep => (hendpoints ep hep).2
  refine ⟨⟨hrequests, fun ep hep => (hendpoints ep hep).1, ?_⟩, ?_⟩
  · intro kind h hc
    exact hclass h (hc.eq_classHandler hfunctions hvendor).2
  · intro h hc
    cases (hc.eq_classHandler hfunctions hvendor).1

/-- The control interface of a modem is stock and serves its line by class requests. -/
theorem Cdc.stock_controlInterface (v : Variant) :
    (controlInterface v).Stock ∧ (controlInterface v).ReservesCdc := by
  refine Interface.stock_of_classHandler rfl ?_ ?_ rfl
  · exact List.forall_mem_singleton.2 ⟨rfl, rfl⟩
  · rintro _ ⟨⟩
    exact trivial

/-- The data interface of a modem is stock and has no line. -/
theorem Cdc.stock_dataInterface (v : Variant) :
    (dataInterface v).Stock ∧ (dataInterface v).ReservesCdc := by
  refine Interface.stock_of_classHandler rfl ?_ ?_ rfl
  · exact List.forall_mem_cons.2 ⟨⟨rfl, rfl⟩, List.forall_mem_singleton.2 ⟨rfl, rfl⟩⟩
  · rintro _ ⟨⟩

/-- The interface of a hub is stock and has no line. -/
theorem Hub.stock_hubInterface : hubInterface.Stock ∧ hubInterface.ReservesCdc := by
  refine Interface.stock_of_classHandler rfl ?_ ?_ rfl
  · exact List.forall_mem_singleton.2 ⟨rfl, rfl⟩
  · rintro _ ⟨⟩
    exact trivial

/-- A computation in two steps that succeeds has succeeded in both. -/
theorem exists_of_bind_eq_ok {ε α β : Type} {x : Except ε α} {f : α → Except ε β} {b : β}
    (h : x >>= f = .ok b) : ∃ a, x = .ok a ∧ f a = .ok b := by
  cases x with
  | error e => cases h
  | ok a => exact ⟨a, rfl, h⟩

namespace Profile

/-- The interfaces that a built-in profile is made of. -/
def interfaces : Profile → List Interface
  | billboard => [{ number := 0, classCode := InterfaceClass.billboard }]
  | cdcAcm => [Cdc.controlInterface Cdc.acm, Cdc.dataInterface Cdc.acm]
  | cdcDl => [Cdc.controlInterface Cdc.dl, Cdc.dataInterface Cdc.dl]
  | hub => [Hub.hubInterface]

/-- What the interfaces of a built-in profile have, whatever the indices of their names, those of
its gadgets have. -/
theorem each_of_interfaces {Q : Interface → Prop}
    (hQ : ∀ (i : Interface) index, Q i → Q { i with stringIndex := index }) {p : Profile}
    {o : ProfileOptions} {g : Gadget} (h : p.build o = .ok g) (hp : ∀ i ∈ p.interfaces, Q i) :
    g.model.Each Q := by
  cases p with
  | billboard =>
    obtain ⟨m', hm', hg⟩ := exists_of_bind_eq_ok h
    obtain ⟨m, hm, hm'⟩ := exists_of_bind_eq_ok hm'
    have hbuilt := Model.each_build hQ hm (List.forall_mem_singleton.2 hp)
    cases hm'
    cases hg
    exact hbuilt
  | _ =>
    obtain ⟨m, hm, hg⟩ := exists_of_bind_eq_ok h
    have hbuilt := Model.each_build hQ hm (List.forall_mem_singleton.2 hp)
    cases hg
    exact hbuilt

/-- The interfaces of all built-in profiles are stock. -/
theorem stock_interfaces (p : Profile) : ∀ i ∈ p.interfaces, i.Stock ∧ i.ReservesCdc := by
  have hcdc : ∀ v, ∀ i ∈ [Cdc.controlInterface v, Cdc.dataInterface v],
      i.Stock ∧ i.ReservesCdc := fun v => List.forall_mem_cons.2
    ⟨Cdc.stock_controlInterface v, List.forall_mem_singleton.2 (Cdc.stock_dataInterface v)⟩
  cases p with
  | billboard =>
    exact List.forall_mem_singleton.2
      (Interface.stock_of_classHandler rfl (List.forall_mem_nil _) (fun _ h => nomatch h) rfl)
  | cdcAcm => exact hcdc Cdc.acm
  | cdcDl => exact hcdc Cdc.dl
  | hub => exact List.forall_mem_singleton.2 Hub.stock_hubInterface

/-- The interfaces of the built-in profiles are stock, and no vendor handler in them is that of a
serial line. -/
theorem each_of_build {p : Profile} {o : ProfileOptions} {g : Gadget} (h : p.build o = .ok g) :
    g.model.Each fun i => i.Stock ∧ i.ReservesCdc := by
  refine each_of_interfaces ?_ h p.stock_interfaces
  rintro i index ⟨hstock, hreserves⟩
  exact ⟨⟨hstock.requests, hstock.endpoints, hstock.handlers⟩, hreserves⟩

/-- All that a built-in profile replaces is the request for a descriptor, on a billboard. -/
theorem overrides_of_build {p : Profile} {o : ProfileOptions} {g : Gadget}
    (h : p.build o = .ok g) :
    ∀ e ∈ g.overrides.entries, e = (RequestCode.getDescriptor, BillboardProfile.getDescriptor) := by
  cases p with
  | billboard =>
    obtain ⟨m, -, hg⟩ := exists_of_bind_eq_ok h
    cases hg
    exact fun e he => List.mem_singleton.1 (Table.mem_ofList he)
  | _ =>
    obtain ⟨m, -, hg⟩ := exists_of_bind_eq_ok h
    cases hg
    exact List.forall_mem_nil _

end Profile

/-- The gadgets that serve the standard requests: the built-in profiles, and the models that
replace none, whatever their handlers of class and vendor requests. -/
inductive Gadget.Standard : Gadget → Prop where
  | profile (p : Profile) (o : ProfileOptions) {g : Gadget} (h : p.build o = .ok g) : Standard g
  | plain {m : Model} (h : m.Each Interface.Standard) : Standard { model := m }

namespace Gadget.Standard

variable {g : Gadget}

/-- The interfaces of a standard gadget serve the standard requests. -/
theorem each (h : g.Standard) : g.model.Each Interface.Standard := by
  cases h with
  | profile p o h =>
    intro c hc i hi
    exact (i.stock_iff.1 (Profile.each_of_build h c hc i hi).1).1
  | plain h => exact h

/-- A standard gadget replaces no request but a billboard's for descriptors. -/
theorem overrides (h : g.Standard) :
    ∀ e ∈ g.overrides.entries, e.2 = BillboardProfile.getDescriptor := by
  cases h with
  | profile p o h => exact fun e he => congrArg Prod.snd (Profile.overrides_of_build h e he)
  | plain h => exact List.forall_mem_nil _

/-- The device's own table leaves the tree alone. -/
theorem configurations_lookup (h : g.Standard) (code : UInt8) :
    ∀ speed r link m, ((StandardRequests.requests.merge g.overrides).lookup code speed r link
      m).state.configurations = m.configurations := by
  refine RequestTable.lookup_merge (P := fun (h : Handler Model) => ∀ speed r link m,
    (h speed r link m).state.configurations = m.configurations) ?_ ?_ code
  · intro code speed r link m
    exact (StandardRequests.hasEffect_lookup code speed r link m).configurations_eq
  · intro e he speed r link m
    rw [h.overrides e he, BillboardProfile.getDescriptor]
    split
    · rw [Link.state_stall]
    · rw [Link.state_reply]

/-- What the shape of an interface determines holds of all interfaces after all that happens to the
gadget, if it does at the start. -/
theorem each_after {Q : Interface → Prop} (h : g.Standard)
    (hQ : ∀ i : Interface, Q i.shape ↔ Q i) (hg : g.model.Each Q) (link : Link)
    (actions : List Action) : ((Device.ofGadget g link).after actions).model.Each Q :=
  (Model.lasting_each hQ h.configurations_lookup).after (d := .ofGadget g link) hg actions

end Gadget.Standard

namespace Gadget.Stock

variable {g : Gadget}

/-- The interfaces of a stock gadget are stock. -/
theorem each (h : g.Stock) : g.model.Each Interface.Stock := by
  cases h with
  | profile p o h =>
    intro c hc i hi
    exact (Profile.each_of_build h c hc i hi).1
  | plain h => exact h

/-- A stock gadget is a standard one. -/
theorem standard (h : g.Stock) : g.Standard := by
  cases h with
  | profile p o h => exact .profile p o h
  | plain h => exact .plain fun c hc i hi => (i.stock_iff.1 (h c hc i hi)).1

/-- The device's own table answers every request once. -/
theorem answers_lookup (h : g.Stock) (code : UInt8) :
    ((StandardRequests.requests.merge g.overrides).lookup code).Answers := by
  refine RequestTable.lookup_merge StandardRequests.answers_lookup ?_ code
  intro e he
  rw [h.standard.overrides e he]
  exact BillboardProfile.answers_getDescriptor

/-- The device's own table leaves the tree alone. -/
theorem configurations_lookup (h : g.Stock) (code : UInt8) :
    ∀ speed r link m, ((StandardRequests.requests.merge g.overrides).lookup code speed r link
      m).state.configurations = m.configurations :=
  h.standard.configurations_lookup code

end Gadget.Stock

end UsbGadget
