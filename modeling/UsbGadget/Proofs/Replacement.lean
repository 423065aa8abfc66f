/-
# Replacing descriptors changes nothing but descriptors

What an application puts in place of a descriptor goes out to the host, but
nothing that a device keeps comes to depend on it.  Two devices are `Twins` if
they have the same model, up to the identity, and are both connected or both
not; over a round they stay twins, fail alike and say alike things
(`Twins.round`), whatever their applications answer.  Only where a descriptor is
asked for on the control endpoint may the bytes of the reply differ
(`HostEvent.AsksDescriptor`).

The built-in profiles are all made of parts that serve like that
(`Profile.uniform_of_build`).  So two sessions of one profile with applications
that never ask to stop take in the same events and end with the same model and
the same error (`Profile.session_endsAlike`).
-/

import UsbGadget.Cli.Run
import UsbGadget.Proofs.Course

namespace UsbGadget

/-- The request asks for a descriptor: of the device, or of its function if that is a hub. -/
def Request.AsksDescriptor (hub : Prop) (r : Request) : Prop :=
  r.code = RequestCode.getDescriptor ∧
    (r.kind = .standard ∧ r.recipient = .device ∨ hub ∧ r.kind = .classSpecific)

/-- The event is a SETUP packet that asks for a descriptor. -/
def HostEvent.AsksDescriptor (hub : Prop) : HostEvent → Prop
  | setup packet => ∃ r, Request.ofBytes packet = .ok r ∧ r.AsksDescriptor hub
  | _ => False

/-- Requests that go to a class handler are class requests. -/
theorem Request.kind_of_target_eq_function {r : Request} {policy : Policy}
    (h : r.target policy = .function .classSpecific) : r.kind = .classSpecific := by
  unfold target at h
  split at h
  · split at h
    · cases h
    · cases h
    · cases h
    · unfold OtherRecipientPolicy.target at h
      split at h <;> cases h
    · cases h
  · next hkind => exact hkind
  · cases h
  · cases h

/-! ### Parts that serve alike -/

/-- The interface and its endpoints serve with built-in handlers alone, and if one of these is that
of a hub, it serves the class requests of one. -/
structure Interface.Uniform (hub : Prop) (i : Interface) : Prop where
  stock : i.Stock
  traffic : ∀ ep ∈ i.endpoints, ∀ t, ep.traffic = some t → t.IsStock
  hubs : ∀ kind h, i.Carries kind h → h.IsHub → hub ∧ kind = .classSpecific

/-- Whether an interface is uniform is a matter of its shape. -/
theorem Interface.uniform_shape_iff (hub : Prop) (i : Interface) :
    i.shape.Uniform hub ↔ i.Uniform hub := by
  have htraffic : (∀ ep ∈ i.shape.endpoints, ∀ t, ep.traffic = some t → t.IsStock) ↔
      ∀ ep ∈ i.endpoints, ∀ t, ep.traffic = some t → t.IsStock :=
    forall_traffic_shape_iff fun t => by cases t <;> rfl
  have hhubs : (∀ kind h, i.shape.Carries kind h → h.IsHub → hub ∧ kind = .classSpecific) ↔
      ∀ kind h, i.Carries kind h → h.IsHub → hub ∧ kind = .classSpecific :=
    forall_congr' fun kind => forall_carries_shape_iff fun h => by cases h <;> rfl
  constructor
  · intro h
    exact ⟨i.stock_shape_iff.1 h.stock, htraffic.1 h.traffic, hhubs.1 h.hubs⟩
  · intro h
    exact ⟨i.stock_shape_iff.2 h.stock, htraffic.2 h.traffic, hhubs.2 h.hubs⟩

/-- What serves alike is proper. -/
theorem Interface.Uniform.proper {hub : Prop} {i : Interface} (h : i.Uniform hub) : i.Proper where
  requests code := by
    rw [h.stock.requests]
    exact (Interface.State.inStep_lookup code).proper
  endpoints ep hep code := by
    rw [h.stock.endpoints ep hep]
    exact (Endpoint.Status.inStep_lookup code).proper
  traffic ep hep t ht := by
    have hstock := h.traffic ep hep t ht
    cases t with
    | custom => exact hstock.elim
    | _ => exact trivial
  handlers kind handler hc := by
    have hstock := h.stock.handlers kind handler hc
    cases handler with
    | custom handler =>
      intro code
      rw [show handler.requests = { default := Handler.serviced } from hstock]
      have hserviced : (Handler.serviced (σ := Nat)).InStep id True := Handler.inStep_serviced
      exact hserviced.proper
    | _ => exact trivial

/-- A stock interface without a vendor handler serves alike if its endpoints have no handlers of
requests and only built-in traffic. -/
theorem Interface.Stock.uniform {hub : Prop} {i : Interface} (hstock : i.Stock)
    (hvendor : i.functions.vendorHandler = none)
    (hclass : ∀ h, i.functions.classHandler = some h → h.IsHub → hub)
    (hfunctions : ∀ ep ∈ i.endpoints, ep.functions = {})
    (htraffic : ∀ ep ∈ i.endpoints, ∀ t, ep.traffic = some t → t.IsStock) : i.Uniform hub where
  stock := hstock
  traffic := htraffic
  hubs kind h hc hhub := by
    obtain ⟨hkind, hget⟩ := hc.eq_classHandler hfunctions hvendor
    exact ⟨hclass h hget hhub, hkind⟩

namespace Profile

/-- The interfaces of all built-in profiles are uniform. -/
theorem uniform_interfaces (p : Profile) : ∀ i ∈ p.interfaces, i.Uniform (p = .hub) := by
  have hcdc : ∀ (hub : Prop) v, ∀ i ∈ [Cdc.controlInterface v, Cdc.dataInterface v],
      i.Uniform hub := by
    intro hub v
    refine List.forall_mem_cons.2 ⟨?_, List.forall_mem_singleton.2 ?_⟩
    · refine (Cdc.stock_controlInterface v).1.uniform rfl ?_ (List.forall_mem_singleton.2 rfl)
        (List.forall_mem_singleton.2 ?_)
      · rintro _ ⟨⟩ h
        exact h.elim
      · rintro _ ⟨⟩
    · refine (Cdc.stock_dataInterface v).1.uniform rfl ?_
        (List.forall_mem_cons.2 ⟨rfl, List.forall_mem_singleton.2 rfl⟩)
        (List.forall_mem_cons.2 ⟨?_, List.forall_mem_singleton.2 ?_⟩)
      · rintro _ ⟨⟩
      · rintro _ ⟨⟩
        exact trivial
      · rintro _ ⟨⟩
        exact trivial
  cases p with
  | billboard =>
    refine List.forall_mem_singleton.2 ?_
    refine (stock_interfaces .billboard _ List.mem_cons_self).1.uniform rfl ?_
      (List.forall_mem_nil _) (List.forall_mem_nil _)
    rintro _ ⟨⟩
  | cdcAcm => exact hcdc _ Cdc.acm
  | cdcDl => exact hcdc _ Cdc.dl
  | hub =>
    refine List.forall_mem_singleton.2 ?_
    refine Hub.stock_hubInterface.1.uniform rfl (fun _ _ _ => rfl)
      (List.forall_mem_singleton.2 rfl) (List.forall_mem_singleton.2 ?_)
    rintro _ ⟨⟩
    exact trivial

/-- The parts of the built-in profiles serve alike. -/
theorem uniform_of_build {p : Profile} {o : ProfileOptions} {g : Gadget} (h : p.build o = .ok g) :
    g.model.Each (Interface.Uniform (p = .hub)) := by
  refine each_of_interfaces (fun i index hi => ?_) h p.uniform_interfaces
  exact ⟨⟨hi.stock.requests, hi.stock.endpoints, hi.stock.handlers⟩, hi.traffic, hi.hubs⟩

/-- The handlers of the built-in profiles are proper. -/
theorem proper_of_build {p : Profile} {o : ProfileOptions} {g : Gadget} (h : p.build o = .ok g) :
    g.Proper where
  tree c hc i hi := (uniform_of_build h c hc i hi).proper
  overrides e he := by
    rw [overrides_of_build h e he]
    exact BillboardProfile.orderly_getDescriptor

end Profile

/-! ### Twins -/

/-- A stock interface serves standard requests in step, over links that are connected alike. -/
theorem Interface.Stock.inStep_serve {i : Interface} (h : i.Stock) (speed : Speed) (r : Request)
    {link link' : Link} (hconnected : link'.transport.connected = link.transport.connected) :
    Answer.InStep id False link link' (i.serve speed r link) (i.serve speed r link') := by
  unfold Interface.serve
  rw [h.requests]
  exact (Interface.State.inStep_lookup r.code speed r link link' i.state hconnected).map _ _
    fun _ => rfl

/-- The endpoints of a stock interface serve standard requests in step. -/
theorem Interface.Stock.inStep_serve_endpoint {i : Interface} (h : i.Stock) {ep : Endpoint}
    (hep : ep ∈ i.endpoints) (speed : Speed) (r : Request) {link link' : Link}
    (hconnected : link'.transport.connected = link.transport.connected) :
    Answer.InStep id False link link' (ep.serve speed r link) (ep.serve speed r link') := by
  unfold Endpoint.serve
  rw [h.endpoints ep hep]
  exact (Endpoint.Status.inStep_lookup r.code speed r link link' ep.status hconnected).map _ _
    fun _ => rfl

/-- What serves in the active configuration does so whatever the identity of the model. -/
theorem Model.serveActive?_relabel (identity : DeviceInfo → DeviceInfo)
    (serve : Configuration → Option (Answer Configuration)) (m : Model) :
    (m.relabel identity).serveActive? serve =
      (m.serveActive? serve).map (Answer.map (relabel identity)) := by
  rw [serveActive?, serveActive?, Option.map_bind]
  refine congrArg _ (funext fun position => ?_)
  rw [Function.comp_apply, Option.map_map]
  rfl

/-- The endpoint of a number serves whatever the identity of the model. -/
theorem Model.serveEndpoint?_relabel (identity : DeviceInfo → DeviceInfo) (number : UInt8)
    (serve : Endpoint → Answer Endpoint) (m : Model) :
    (m.relabel identity).serveEndpoint? number serve =
      (m.serveEndpoint? number serve).map (Answer.map (relabel identity)) := by
  rw [serveEndpoint?, serveEndpoint?, Option.map_bind]
  exact congrArg _ (funext fun slot => m.serveActive?_relabel ..)

/-- What serves a request but for the device itself does not see the identity. -/
theorem Device.serve?_relabel (identity : DeviceInfo → DeviceInfo) (requests : RequestTable Model)
    {target : Target} (htarget : target ≠ .device) (r : Request) (link : Link) (m : Model) :
    serve? requests target r link (m.relabel identity) =
      (serve? requests target r link m).map (Answer.map (Model.relabel identity)) := by
  cases target with
  | device => exact absurd rfl htarget
  | interface position => exact m.serveActive?_relabel ..
  | endpoint number => exact m.serveEndpoint?_relabel ..
  | function kind => exact m.serveActive?_relabel ..
  | nobody => rfl

/-- An endpoint serves traffic in step if its handler does. -/
theorem Endpoint.inStep_withTraffic {ep : Endpoint} {free : Prop} {link link' : Link}
    {act act' : TrafficHandler → Answer TrafficHandler}
    (h : ∀ t, ep.traffic = some t → Answer.InStep id free link link' (act t) (act' t)) :
    Answer.InStep id free link link' (ep.withTraffic link act) (ep.withTraffic link' act') := by
  unfold withTraffic
  split
  · exact ⟨rfl, rfl, Link.inStep_refl ..⟩
  · next t ht => exact (h t ht).map _ _ fun _ => rfl

/-- Two ways to serve are in step if the parts that serve are: if there is none, both stall. -/
theorem Answer.InStep.getD_stall {σ α : Type} {f : σ → σ} {free : Prop} {link link' : Link}
    {part? : Option α} {serve? : Link → Option (Answer σ)} {serve : Link → α → Answer α}
    (hconnected : link'.transport.connected = link.transport.connected)
    (houtcome : ∀ link,
      (serve? link).map Answer.outcome = part?.map fun a => (serve link a).outcome)
    (h : ∀ a, part? = some a → InStep id free link link' (serve link a) (serve link' a) ∧
      ∃ put : α → σ, ∀ link, serve? link = some ((serve link a).map put)) (s : σ) :
    InStep f free link link' ((serve? link).getD (link.stall s))
      (((serve? link').map (Answer.map f)).getD (link'.stall (f s))) := by
  cases part? with
  | none =>
    have habsent link : serve? link = none := Option.map_eq_none_iff.1 (houtcome link)
    simp only [habsent, Option.map_none, Option.getD_none]
    exact .stall f hconnected s
  | some a =>
    obtain ⟨hserve, put, hput⟩ := h a rfl
    simp only [hput, Option.map_some, Option.getD_some, Answer.map_map]
    exact hserve.map put (f ∘ put) fun _ => rfl

namespace Device

/-- What a device and a failure come to, as the answer of the device's model. -/
def answer (result : Device × Option UsbError) : Answer Model :=
  ⟨result.1.model, result.1.link, result.2⟩

/-- The devices have the same model, up to the identity, and the same table, and both are connected
or neither is.  The handlers of the table are in step and leave the tree alone, and all parts of the
tree serve alike. -/
structure Twins (hub : Prop) (identity : DeviceInfo → DeviceInfo) (d d' : Device) : Prop where
  model : d'.model = d.model.relabel identity
  requests : d'.requests = d.requests
  connected : d'.link.transport.connected = d.link.transport.connected
  tree : d.model.Each (Interface.Uniform hub)
  inStep : ∀ code, (d.requests.lookup code).InStep (Model.relabel identity)
    (code = RequestCode.getDescriptor)
  configurations : ∀ code speed r link m,
    (d.requests.lookup code speed r link m).state.configurations = m.configurations

namespace Twins

variable {hub : Prop} {identity : DeviceInfo → DeviceInfo} {d d' : Device}

/-- What serves a request serves it alike. -/
theorem inStep_serve? (h : Twins hub identity d d') (r : Request) {link link' : Link}
    (hconnected : link'.transport.connected = link.transport.connected) :
    Answer.InStep (Model.relabel identity) (r.AsksDescriptor hub) link link'
      ((serve? d.requests (r.target d.model.policy) r link d.model).getD (link.stall d.model))
      ((serve? d'.requests (r.target d'.model.policy) r link' d'.model).getD
        (link'.stall d'.model)) := by
  rw [h.model, h.requests,
    show (d.model.relabel identity).policy = d.model.policy from rfl]
  by_cases hdevice : r.target d.model.policy = .device
  · have hstandard := Request.target_eq_device_iff.1 hdevice
    rw [hdevice]
    exact (h.inStep r.code d.model.speed r link link' d.model hconnected).mono
      fun hcode => ⟨hcode, .inl hstandard⟩
  · rw [serve?_relabel identity d.requests hdevice]
    cases htarget : r.target d.model.policy with
    | device => exact absurd htarget hdevice
    | interface position =>
      refine .getD_stall hconnected
        (fun link =>
          d.model.outcome_serveInterface? position (Interface.serve d.model.speed r link))
        (fun i hi => ?_) d.model
      obtain ⟨put, -, hput⟩ := Model.serveInterface?_of_interface? hi
      refine ⟨?_, put, fun link => hput _⟩
      exact ((h.tree.interface? hi).stock.inStep_serve d.model.speed r hconnected).mono False.elim
    | endpoint number =>
      refine .getD_stall hconnected
        (fun link => d.model.outcome_serveEndpoint? number (Endpoint.serve d.model.speed r link))
        (fun ep hep => ?_) d.model
      obtain ⟨put, -, hput⟩ := Model.serveEndpoint?_of_endpoint? hep
      refine ⟨?_, put, fun link => hput _⟩
      obtain ⟨i, hi, hmem⟩ := h.tree.endpoint? hep
      exact (hi.stock.inStep_serve_endpoint hmem d.model.speed r hconnected).mono False.elim
    | function kind =>
      refine .getD_stall hconnected (fun link => d.model.outcome_serveFunction? kind r link)
        (fun handler hh => ?_) d.model
      obtain ⟨put, hput⟩ := Model.mounts r hh
      refine ⟨?_, put, hput.serve?_eq⟩
      obtain ⟨i, hi, hcarries⟩ := h.tree.handler? hh
      refine (FunctionHandler.inStep_serve (hi.stock.handlers kind handler hcarries) d.model.speed r
        hconnected).mono ?_
      rintro ⟨hhub, hcode⟩
      obtain ⟨hprofile, rfl⟩ := hi.hubs kind handler hcarries hhub
      exact ⟨hcode, .inr ⟨hprofile, Request.kind_of_target_eq_function htarget⟩⟩
    | nobody => exact .stall _ hconnected d.model

/-- So does an endpoint on which traffic comes in or can go out. -/
theorem inStep_withEndpoint (h : Twins hub identity d d') (number : UInt8)
    {act : Speed → Link → Endpoint → Answer Endpoint} {note : Link → Link}
    (hnote : Link.InStep False d.link (note d.link) d'.link (note d'.link))
    (hact : ∀ i : Interface, i.Uniform hub → ∀ ep ∈ i.endpoints,
      Answer.InStep id False (note d.link) (note d'.link) (act d.model.speed (note d.link) ep)
        (act d.model.speed (note d'.link) ep)) :
    Answer.InStep (Model.relabel identity) False d.link d'.link
      (answer (d.withEndpoint number act note)) (answer (d'.withEndpoint number act note)) := by
  have hidle : Answer.InStep (Model.relabel identity) False d.link d'.link (answer (d, none))
      (answer (d', none)) := ⟨h.model, rfl, Link.inStep_refl ..⟩
  have hserve := d.model.serveEndpoint?_relabel identity number (act d.model.speed (note d'.link))
  have hstate : d'.model.state = (d.model.relabel identity).state := congrArg Model.state h.model
  have hspeed : d'.model.speed = (d.model.relabel identity).speed := congrArg Model.speed h.model
  rw [← h.model] at hserve
  unfold withEndpoint
  rw [hstate, hspeed, show (d.model.relabel identity).speed = d.model.speed from rfl, hserve,
    show (d.model.relabel identity).state = d.model.state from rfl]
  split
  · cases hep : d.model.endpoint? number with
    | none =>
      simp only [Model.serveEndpoint?_eq_none hep, Option.map_none]
      exact hidle
    | some ep =>
      obtain ⟨put, -, hput⟩ := Model.serveEndpoint?_of_endpoint? hep
      obtain ⟨i, hi, hmem⟩ := h.tree.endpoint? hep
      simp only [hput, Option.map_some]
      exact ((hact i hi ep hmem).of_said hnote).map put (Model.relabel identity ∘ put) fun _ => rfl
  · exact hidle

/-- In a round twins are told alike that they are polled and that a SETUP packet came in, and what
serves the event serves it alike. -/
theorem inStep_round (h : Twins hub identity d d') (e : HostEvent) :
    Answer.InStep (Model.relabel identity) (e.AsksDescriptor hub)
      (d.poll.2.link.after ⟨[], e.opening⟩) (d'.poll.2.link.after ⟨[], e.opening⟩)
      (answer (d.round e)) (answer (d'.round e)) := by
  have hpolled : Twins hub identity d.poll.2 d'.poll.2 :=
    ⟨h.model, h.requests, h.connected, h.tree, h.inStep, h.configurations⟩
  cases e with
  | setup packet =>
    rw [HostEvent.opening_setup, Device.round, Device.round, handleEvent, handleEvent, handleSetup,
      handleSetup]
    cases hr : Request.ofBytes packet with
    | ok r =>
      rw [← Link.note_eq_after, ← Link.note_eq_after]
      have hconnected : (d'.poll.2.link.note .setupReceived).transport.connected =
        (d.poll.2.link.note .setupReceived).transport.connected := h.connected
      exact (hpolled.inStep_serve? r hconnected).mono fun hasks => ⟨r, hr, hasks⟩
    | error e =>
      rw [Link.after_nothing, Link.after_nothing]
      exact ⟨h.model, rfl, Link.inStep_refl ..⟩
  | data number data =>
    rw [show (HostEvent.data number data).opening = [] from rfl, Link.after_nothing,
      Link.after_nothing]
    refine hpolled.inStep_withEndpoint number (Link.inStep_signal ..) fun i hi ep hep => ?_
    exact Endpoint.inStep_withTraffic fun t ht =>
      TrafficHandler.inStep_receive (hi.traffic ep hep t ht) ..
  | bufferAvailable number =>
    rw [show (HostEvent.bufferAvailable number).opening = [] from rfl, Link.after_nothing,
      Link.after_nothing]
    refine hpolled.inStep_withEndpoint number (Link.inStep_refl ..) fun i hi ep hep => ?_
    exact Endpoint.inStep_withTraffic fun t ht =>
      TrafficHandler.inStep_offer (hi.traffic ep hep t ht) _ h.connected

/-- What is said in a round is alike. -/
theorem exists_link_round (h : Twins hub identity d d') (e : HostEvent) :
    ∃ x x' : Exchange, x.Alike (e.AsksDescriptor hub) x' ∧
      (d.round e).1.link = d.link.after x ∧ (d'.round e).1.link = d'.link.after x' := by
  obtain ⟨x, x', -, halike, hlink, hlink'⟩ := (h.inStep_round e).said
  have hround : ∀ {d : Device} {x : Exchange}, (answer (d.round e)).link =
      (d.poll.2.link.after ⟨[], e.opening⟩).after x →
        (d.round e).1.link = d.link.after (⟨[], [.polled]⟩ ++ (⟨[], e.opening⟩ ++ x)) := by
    intro d x hlink
    rw [Link.after_append, Link.after_append, ← Link.note_eq_after]
    exact hlink
  exact ⟨_, _, (Exchange.alike_refl _ _).append ((Exchange.alike_refl _ _).append halike),
    hround hlink, hround hlink'⟩

/-- Twins stay twins over a round. -/
theorem round (h : Twins hub identity d d') (e : HostEvent) :
    Twins hub identity (d.round e).1 (d'.round e).1 where
  model := (h.inStep_round e).state
  requests := by rw [requests_round, requests_round, h.requests]
  connected := by
    obtain ⟨x, x', -, hlink, hlink'⟩ := h.exists_link_round e
    rw [hlink, hlink']
    exact h.connected
  tree :=
    (Model.lasting_each (Interface.uniform_shape_iff hub) h.configurations).act (d := d.poll.2)
      h.tree (.event e)
  inStep := by
    rw [requests_round]
    exact h.inStep
  configurations := by
    rw [requests_round]
    exact h.configurations

/-- Devices that are twins stay so through rounds. -/
theorem rounds (h : Twins hub identity d d') (events : List HostEvent) :
    Twins hub identity (d.rounds events) (d'.rounds events) := by
  induction events generalizing d d' with
  | nil => exact h
  | cons e events ih => exact ih (h.round e)

/-- Twins fail alike. -/
theorem failure_round (h : Twins hub identity d d') (before : List HostEvent) (e : HostEvent) :
    ((d'.rounds before).round e).2 = ((d.rounds before).round e).2 :=
  ((h.rounds before).inStep_round e).failure

/-- What is said in rounds is alike, but for the bytes of some replies. -/
theorem exists_link_rounds (h : Twins hub identity d d') (events : List HostEvent) :
    ∃ x x' : Exchange, x.Alike True x' ∧
      (d.rounds events).link = d.link.after x ∧ (d'.rounds events).link = d'.link.after x' := by
  induction events generalizing d d' with
  | nil =>
    exact ⟨{}, {}, Exchange.alike_refl True {}, d.link.after_nothing.symm,
      d'.link.after_nothing.symm⟩
  | cons e events ih =>
    obtain ⟨x, x', halike, hlink, hlink'⟩ := h.exists_link_round e
    obtain ⟨y, y', hrest, hlast, hlast'⟩ := ih (h.round e)
    refine ⟨x ++ y, x' ++ y', (halike.mono fun _ => trivial).append hrest, ?_, ?_⟩
    · rw [rounds_cons, hlast, hlink, Link.after_append]
    · rw [rounds_cons, hlast', hlink', Link.after_append]

end Twins

/-- Gadgets of one profile, up to the identity, are twins when a session begins, whatever their
applications. -/
theorem twins_fresh {p : Profile} {o : ProfileOptions} {g g' : Gadget} (h : p.build o = .ok g)
    {identity : DeviceInfo → DeviceInfo} (hmodel : g'.model = g.model.relabel identity)
    (hoverrides : g'.overrides = g.overrides) (app app' : Application) :
    Twins (p = .hub) identity (fresh g app) (fresh g' app') where
  model := by
    show { g'.model with state := .powered } = _
    rw [hmodel]
    rfl
  requests := congrArg StandardRequests.requests.merge hoverrides
  connected := rfl
  tree := Profile.uniform_of_build h
  inStep code := by
    refine RequestTable.lookup_merge_of_forall (StandardRequests.inStep_lookup identity code) ?_
    intro e he hcode
    obtain rfl := Profile.overrides_of_build h e he
    exact (BillboardProfile.inStep_getDescriptor identity).mono fun _ => hcode.symm
  configurations := (Gadget.Standard.profile p o h).configurations_lookup

end Device

/-! ### Sessions -/

/-- The application never asks to stop. -/
def Application.NeverStops (app : Application) : Prop := ∀ history, app.wantsStop history = false

/-- The silent application never asks to stop. -/
theorem Application.neverStops_silent : silent.NeverStops := fun _ => rfl

/-- A mutation table never asks to stop. -/
theorem MutationTable.neverStops_script (table : Table Stage Bytes) :
    (script table).application.NeverStops := fun _ => rfl

/-- An application that changes nothing and never asks to stop is the silent one. -/
theorem Application.NeverStops.eq_silent {app : Application} (h : app.NeverStops)
    (hsilent : app.ReplacesNothing) : app = silent := by
  have hmutation : app.mutation = silent.mutation :=
    funext fun history => funext fun stage => funext fun bytes => hsilent history stage bytes
  have hstop : app.wantsStop = silent.wantsStop := funext h
  cases app
  exact congr (congrArg Application.mk hmutation) hstop

namespace Callback

/-- What alike callbacks have in common can be read off either history. -/
theorem filterMap_eq_of_alike {α : Type} {read : Callback → Option α}
    (hread : ∀ c c', Alike c c' → read c' = read c) {history history' : List Callback}
    (h : List.Forall₂ Alike history history') :
    history'.filterMap read = history.filterMap read := by
  induction h with
  | nil => rfl
  | cons hc _ ih => rw [List.filterMap_cons, List.filterMap_cons, hread _ _ hc, ih]

/-- Histories that are alike have the same signals. -/
theorem reasons_eq_of_alike {history history' : List Callback}
    (h : List.Forall₂ Alike history history') : reasons history' = reasons history := by
  refine filterMap_eq_of_alike (fun c c' hc => ?_) h
  cases hc <;> rfl

/-- Histories that are alike have queries of the same stages. -/
theorem stages_eq_of_alike {history history' : List Callback}
    (h : List.Forall₂ Alike history history') :
    (queries history').map Prod.fst = (queries history).map Prod.fst := by
  rw [queries, queries, List.map_filterMap, List.map_filterMap]
  refine filterMap_eq_of_alike (fun c c' hc => ?_) h
  cases hc <;> rfl

end Callback

namespace Device

/-- Rounds replace the application of neither twin. -/
theorem Twins.app_rounds {hub : Prop} {identity : DeviceInfo → DeviceInfo} {d d' : Device}
    (h : Twins hub identity d d') (events : List HostEvent) :
    (d.rounds events).link.app = d.link.app ∧ (d'.rounds events).link.app = d'.link.app := by
  obtain ⟨x, x', -, hlink, hlink'⟩ := h.exists_link_rounds events
  rw [hlink, hlink']
  exact ⟨rfl, rfl⟩

/-- What two sessions have in common that took in the same events: the model at the end, the
signalled reasons, the stages that were queried, and call by call what is alike, where only replies
to requests for a descriptor may differ. -/
structure EndsAlike (hub : Prop) (start start' : Device) (handled : List HostEvent)
    (last last' : Device) : Prop where
  model : last'.model = last.model
  reasons : Callback.reasons last'.link.history = Callback.reasons last.link.history
  stages : (Callback.queries last'.link.history).map Prod.fst =
    (Callback.queries last.link.history).map Prod.fst
  log : List.Forall₂ (Call.Alike True) last.link.transport.log last'.link.transport.log
  round : ∀ before e, before ++ [e] <+: handled → ∃ calls calls' : List Call,
    ((start.rounds before).round e).1.link.transport.log =
      (start.rounds before).link.transport.log ++ calls ∧
    ((start'.rounds before).round e).1.link.transport.log =
      (start'.rounds before).link.transport.log ++ calls' ∧
    List.Forall₂ (Call.Alike (e.AsksDescriptor hub)) calls calls'

/-- Twins that begin alike end alike. -/
theorem Twins.endsAlike {hub : Prop} {d d' : Device} (h : Twins hub id d d')
    (hlog : d'.link.transport.log = d.link.transport.log)
    (hhistory : d'.link.history = d.link.history) (handled : List HostEvent)
    (error : Option UsbError) :
    EndsAlike hub d d' handled ((d.rounds handled).leave error)
      ((d'.rounds handled).leave error) := by
  obtain ⟨x, x', halike, hlink, hlink'⟩ := h.exists_link_rounds handled
  have htold : List.Forall₂ Callback.Alike ((d.rounds handled).leave error).link.history
      ((d'.rounds handled).leave error).link.history := by
    rw [history_leave, history_leave, hlink, hlink', Link.after, Link.after, hhistory]
    exact List.rel_append (List.rel_append (Callback.forall₂_alike_refl _) halike.told)
      (Callback.forall₂_alike_refl _)
  constructor
  · rw [model_leave, model_leave, (h.rounds handled).model]
    rfl
  · exact Callback.reasons_eq_of_alike htold
  · exact Callback.stages_eq_of_alike htold
  · rw [log_leave, log_leave, hlink, hlink', Link.after, Link.after, hlog]
    exact List.rel_append (List.rel_append (Call.forall₂_alike_refl True _) halike.calls)
      (Call.forall₂_alike_refl True _)
  · intro before e _
    obtain ⟨y, y', hround, hlast, hlast'⟩ := (h.rounds before).exists_link_round e
    rw [hlast, hlast']
    exact ⟨y.calls, y'.calls, rfl, rfl, hround.calls⟩

/-- Twins that both go on take in the same events and end with the same error. -/
theorem Twins.course_eq {hub : Prop} {identity : DeviceInfo → DeviceInfo} {d d' : Device}
    (h : Twins hub identity d d') (happ : d.link.app.NeverStops) (happ' : d'.link.app.NeverStops)
    {events handled handled' : List HostEvent} {error error' : Option UsbError}
    (hc : d.Course events handled error) (hc' : d'.Course events handled' error') :
    handled' = handled ∧ error' = error := by
  have hgoes : (d.rounds handled).poll.1 ≠ true ∧ (d'.rounds handled').poll.1 ≠ true := by
    rw [poll, poll, (h.app_rounds handled).1, (h.app_rounds handled').2, happ, happ']
    exact ⟨Bool.false_ne_true, Bool.false_ne_true⟩
  have heq : handled' = handled := by
    by_contra hne
    rcases List.prefix_or_prefix_of_prefix hc.handled_prefix hc'.handled_prefix with hle | hle
    · exact hgoes.1 (hc'.stops_of_shorter hc (List.prefix_refl events)
        (fun before e => (h.failure_round before e).symm) hle (Ne.symm hne))
    · exact hgoes.2 (hc.stops_of_shorter hc' (List.prefix_refl events) h.failure_round hle hne)
  subst heq
  exact ⟨rfl, hc.error_eq hc' h.failure_round⟩

end Device

/-- **Mutations never influence anything but the bytes of descriptors.**  For every built-in
profile, whatever the host does, two applications that never ask to stop see the same session: the
same events are taken in, and it ends with the same error and the same model, the same reasons
signalled and the same stages queried.  Call by call the transports log the same, but for the data
of replies on endpoint 0 to requests for a descriptor.  If neither application replaces anything,
the logs are the same altogether. -/
theorem Profile.session_endsAlike {p : Profile} {o : ProfileOptions} {g : Gadget}
    (hg : p.build o = .ok g) {app app' : Application} (happ : app.NeverStops)
    (happ' : app'.NeverStops) (events : List HostEvent) :
    ∃ (handled : List HostEvent) (error : Option UsbError) (last last' : Device),
      (Device.fresh g app).Course events handled error ∧
      (Device.fresh g app').Course events handled error ∧
      Cli.session g app events = (last, error) ∧
      last = ((Device.fresh g app).rounds handled).leave error ∧
      Cli.session g app' events = (last', error) ∧
      last' = ((Device.fresh g app').rounds handled).leave error ∧
      Device.EndsAlike (p = .hub) (Device.fresh g app) (Device.fresh g app') handled last last' ∧
      (app.ReplacesNothing → app'.ReplacesNothing →
        last'.link.transport.log = last.link.transport.log) := by
  have htwins : Device.Twins (p = .hub) id (Device.fresh g app) (Device.fresh g app') :=
    Device.twins_fresh hg rfl rfl app app'
  obtain ⟨handled, error, hcourse, hsession⟩ :=
    Device.exists_course_runSession (proper_of_build hg) app events
  obtain ⟨handled', error', hcourse', hsession'⟩ :=
    Device.exists_course_runSession (proper_of_build hg) app' events
  obtain ⟨rfl, rfl⟩ := htwins.course_eq happ happ' hcourse hcourse'
  refine ⟨handled', error', _, _, hcourse, hcourse', hsession, rfl, hsession', rfl,
    htwins.endsAlike rfl rfl handled' error', fun hsilent hsilent' => ?_⟩
  rw [happ.eq_silent hsilent, happ'.eq_silent hsilent']

/-- The hypotheses of `Profile.session_endsAlike` are satisfiable: a hub whose own descriptor is
replaced answers the class request for it with other bytes than one whose is not, and both are
configured alike. -/
theorem Profile.session_endsAlike_hub :
    ∃ g, Profile.hub.build {} = .ok g ∧
      let table : Table Stage Bytes := .ofList [(.hubDescriptor, [1, 2, 3])]
      let events : List HostEvent :=
        [.setup [0, 9, 1, 0, 0, 0, 0, 0], .setup [0xa0, 6, 0, 0x29, 0, 0, 4, 0]]
      ∃ last last' : Device,
        Cli.session g .silent events = (last, none) ∧
        Cli.session g (MutationTable.script table).application events = (last', none) ∧
        last'.model = last.model ∧
        last.link.transport.log = [.connect, .acknowledge, .send 0 [9, 0x29, 4, 0], .disconnect] ∧
        last'.link.transport.log = [.connect, .acknowledge, .send 0 [1, 2, 3], .disconnect] := by
  obtain ⟨g, hg⟩ : ∃ g, Profile.hub.build {} = .ok g := ⟨_, rfl⟩
  refine ⟨g, hg, ?_⟩
  intro table events
  obtain ⟨handled, error, last, last', -, -, hsession, -, hsession', -, halike, -⟩ :=
    session_endsAlike hg Application.neverStops_silent (MutationTable.neverStops_script table)
      events
  refine ⟨last, last', ?_, ?_, halike.model, ?_, ?_⟩
  all_goals
    obtain ⟨rfl, rfl⟩ := Prod.mk.inj hsession
    obtain ⟨rfl, -⟩ := Prod.mk.inj hsession'
    cases hg
    rfl

end UsbGadget
