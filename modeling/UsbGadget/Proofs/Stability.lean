/-
# Descriptors outlast all traffic

A descriptor is built from the identity of a device, its strings, its speed, its
object store and its tree of configurations.  Part of that tree changes all the
time: handlers count, endpoints are halted, lines come in.  Another part of what
the tree keeps does show in descriptors, the alternate settings and the class
descriptors of the interfaces, and requests reach that part as well.

The `face` of a model is what its descriptors show: a model with the same face
plans the same descriptors (`Model.layout?_face`).  Entities keep states of their
own (`Model.stateOf?`), and of these only the states of interfaces belong to the
face (`Model.face_eq_of_shape`).  An interface with the standard requests keeps
its state when it serves (`Interface.State.state_dispatch`), so one action keeps
the face, and so does every run (`Device.face_after`).

What the host gets is the front of the descriptor, or a stall if there is none
(`Device.shows_model`); hence it gets the same before and after
(`Device.showsAlike_after`).
-/

import Mathlib.Data.List.Induction
import UsbGadget.Proofs.ControlPlane
import UsbGadget.Proofs.DescriptorStream

namespace UsbGadget

/-! ### What descriptors show -/

/-- The interface as its descriptors show it.  What its endpoints and handlers keep is put back; its
own state is not. -/
def Interface.face (i : Interface) : Interface := { i.shape with state := i.state }

/-- An interface has the layout of its face. -/
theorem Interface.layout_face (i : Interface) (speed : Speed) :
    i.face.layout speed = i.layout speed := by
  have hheader : i.face.header = i.header := by
    simp only [header, face, shape, List.length_map]
  have hendpoints : i.face.endpoints.map (·.layout speed) = i.endpoints.map (·.layout speed) :=
    List.map_map
  unfold layout
  rw [hheader, hendpoints]
  rfl

namespace Configuration

/-- The configuration as its descriptors show it. -/
def face (c : Configuration) : Configuration :=
  { c with interfaces := c.interfaces.map (·.face) }

/-- A configuration has the header of its face. -/
theorem frame_face (c : Configuration) : c.face.frame = c.frame := by
  funext type body
  simp only [frame, face, List.length_map]

/-- The interfaces of a configuration have the layouts of its face. -/
theorem map_layout_face (c : Configuration) (speed : Speed) :
    c.face.interfaces.map (·.layout speed) = c.interfaces.map (·.layout speed) := by
  simp only [face, List.map_map, Function.comp_def, Interface.layout_face]

/-- A configuration has the layout of its face. -/
theorem layout_face (c : Configuration) (speed : Speed) : c.face.layout speed = c.layout speed := by
  rw [layout, frame_face, map_layout_face, layout]

/-- A configuration has the layout for the other speed of its face. -/
theorem otherSpeedLayout_face (c : Configuration) (speed : Speed) :
    c.face.otherSpeedLayout speed = c.otherSpeedLayout speed := by
  rw [otherSpeedLayout, frame_face, map_layout_face, otherSpeedLayout]

end Configuration

namespace Model

/-- The model as its descriptors show it.  What the host has made of the device is put back. -/
def face (m : Model) : Model :=
  { m with
    configurations := m.configurations.map (·.face)
    active := none
    routes := {}
    state := .detached
    address := 0
    remoteWakeup := false
    policy := {} }

/-- The configuration at an index, or else the first one, is found in the face at the same place. -/
theorem configurationOrFirst?_face (m : Model) (index : UInt8) :
    m.face.configurationOrFirst? index = (m.configurationOrFirst? index).map (·.face) := by
  simp only [configurationOrFirst?, face, List.getElem?_map, List.head?_map, Option.map_or]

/-- **The plan of every descriptor is determined by the face.** -/
theorem layout?_face (m : Model) (type index : UInt8) :
    m.face.layout? type index = m.layout? type index := by
  have hdevice : m.face.deviceDescriptor = m.deviceDescriptor := by
    simp only [deviceDescriptor, identityBytes, face, List.length_map]
  have hqualifier : m.face.deviceQualifier = m.deviceQualifier := by
    simp only [deviceQualifier, identityBytes, face, List.length_map]
  have hstring : m.face.stringLayout? index = m.stringLayout? index := rfl
  have hstore : m.face.objectStore = m.objectStore := rfl
  have hspeed : m.face.speed = m.speed := rfl
  unfold layout?
  rw [hdevice, hqualifier, hstring, hstore, hspeed, configurationOrFirst?_face, Option.map_map,
    Option.map_map]
  simp only [Function.comp_def, Configuration.layout_face, Configuration.otherSpeedLayout_face]

end Model

/-- Two lists that agree in one image agree in another one, if the elements at each position do. -/
theorem map_eq_map_of_getElem? {α β γ : Type} {f : α → β} {g : α → γ} {as bs : List α}
    (h : bs.map f = as.map f)
    (hg : ∀ (n : Nat) (a b : α), as[n]? = some a → bs[n]? = some b → f b = f a → g b = g a) :
    bs.map g = as.map g := by
  have hlength : bs.length = as.length := by
    have := congrArg List.length h
    rwa [List.length_map, List.length_map] at this
  apply List.ext_getElem?
  intro n
  rw [List.getElem?_map, List.getElem?_map]
  cases ha : as[n]? with
  | none => rw [List.getElem?_eq_none (hlength ▸ List.getElem?_eq_none_iff.1 ha)]
  | some a =>
    obtain ⟨b, hb, hf⟩ := exists_getElem?_of_map_eq h ha
    rw [hb, Option.map_some, Option.map_some, hg n a b ha hb hf]

/-- Models that differ in the state of the connection, and in what entities keep, have the same face
if their interfaces keep the same states. -/
theorem Model.face_eq_of_shape {m m' : Model} {state : DeviceState}
    (hshape : m'.shape = { m with state := state }.shape)
    (hstate : ∀ position n,
      m'.stateOf? ⟨position, n, .state⟩ = m.stateOf? ⟨position, n, .state⟩) :
    m'.face = m.face := by
  have htree : m'.configurations.map (·.shape) = m.configurations.map (·.shape) :=
    congrArg (·.configurations) hshape
  have hfaces : m'.configurations.map (·.face) = m.configurations.map (·.face) := by
    refine map_eq_map_of_getElem? htree fun position c c' hc hc' hcshape => ?_
    have hinterfaces : c'.interfaces.map (·.face) = c.interfaces.map (·.face) := by
      refine map_eq_map_of_getElem? (congrArg (·.interfaces) hcshape)
        fun n i i' hi hi' hishape => ?_
      have hkept := hstate position n
      simp only [stateOf?, partOf?, hc, hc', Option.bind_some, Configuration.stateOf?, hi, hi',
        Interface.stateOf?, Option.some.injEq, EntityState.interface.injEq] at hkept
      rw [Interface.face, hishape, hkept, Interface.face]
    show { c'.shape with interfaces := c'.interfaces.map (·.face) } = c.face
    rw [hcshape, hinterfaces]
    rfl
  show { m'.shape.face with configurations := m'.configurations.map (·.face) } = m.face
  rw [hshape, hfaces]
  rfl

/-! ### What keeps the face -/

/-- An interface with the standard requests keeps its state. -/
theorem Interface.State.state_dispatch (speed : Speed) (r : Request) (link : Link) (s : State) :
    (requests.dispatch speed r link s).state = s := by
  refine RequestTable.lookup_ofList
    (P := fun h : Handler State => (h speed r link s).state = s) ?_ ?_ r.code
  · exact link.state_replyEmpty s
  · simp only [List.forall_mem_cons]
    refine ⟨link.state_reply .., ?_, link.state_reply .., link.state_replyEmpty s,
      List.forall_mem_nil _⟩
    unfold getDescriptor
    split
    · exact link.state_reply ..
    · exact link.state_stall s

/-- A standard request to a device keeps the face of its model. -/
theorem StandardRequests.Effect.face_eq {m m' : Model} (h : Effect m m') : m'.face = m.face := by
  cases h with
  | nothing => rfl
  | wakeup => rfl
  | address => rfl
  | select h =>
    rcases Model.eq_of_selectConfiguration? h with ⟨-, rfl⟩ | ⟨position, c, -, -, -, rfl⟩
    · rfl
    · rfl

/-- The handler of requests to a device keeps the face of its model. -/
def Handler.KeepsFace (h : Handler Model) : Prop :=
  ∀ speed r link m, (h speed r link m).state.face = m.face

/-- A billboard's request for a descriptor keeps the model. -/
theorem BillboardProfile.state_getDescriptor (speed : Speed) (r : Request) (link : Link)
    (m : Model) : (getDescriptor speed r link m).state = m := by
  unfold getDescriptor
  split
  · exact link.state_stall m
  · exact Link.state_reply ..

/-- All requests to a standard gadget itself keep the face of its model. -/
theorem Gadget.Standard.keepsFace_lookup {g : Gadget} (h : g.Standard) (code : UInt8) :
    ((StandardRequests.requests.merge g.overrides).lookup code).KeepsFace := by
  refine RequestTable.lookup_merge (P := Handler.KeepsFace) ?_ ?_ code
  · exact fun code speed r link m => (StandardRequests.hasEffect_lookup code speed r link m).face_eq
  · intro e he speed r link m
    rw [h.overrides e he, BillboardProfile.state_getDescriptor]

/-- All requests to a standard gadget itself leave the entities alone. -/
theorem Gadget.Standard.spares_lookup {g : Gadget} (h : g.Standard) (code : UInt8) (e : Entity) :
    ((StandardRequests.requests.merge g.overrides).lookup code).Spares e := by
  intro speed r link m
  unfold Model.stateOf?
  rw [h.configurations_lookup]

namespace Device

variable {d : Device}

/-- Requests leave the states of interfaces alone that have the standard requests. -/
theorem stateOf?_handleRequest_of_standard {e : Entity} (he : e.part = .state)
    (hrequests : ∀ code, (d.requests.lookup code).Spares e)
    (hstandard : d.model.Each Interface.Standard) (r : Request) :
    (d.handleRequest r).1.model.stateOf? e = d.model.stateOf? e := by
  by_cases hserves : ∃ serve, d.model.Serves r e serve
  · obtain ⟨serve, hserves⟩ := hserves
    have hserved := (isServedBy hserves).state
    obtain ⟨target, -, hhosts⟩ := hserves
    cases hhosts with
    | @interface position n c i hactive hi =>
      have hbefore : d.model.stateOf? ⟨position, n, .state⟩ = some (.interface i.state) := by
        simp only [Model.stateOf?, partOf?, hactive.2, Option.bind_some, Configuration.stateOf?, hi,
          Interface.stateOf?]
      have hi' := hstandard c (List.mem_of_getElem? hactive.2) i (List.mem_of_getElem? hi)
      rw [hserved, hbefore, Answer.state_map, hi'.requests, Interface.State.state_dispatch]
    | endpoint => cases he
    | function hactive hoffers =>
      obtain ⟨i, -, hpart⟩ := hoffers.offers
      cases hpart <;> cases he
  · exact stateOf?_handleRequest_of_not_serves hrequests fun serve h => hserves ⟨serve, h⟩

/-- No request changes what the descriptors show. -/
theorem face_handleRequest (hspares : ∀ code e, (d.requests.lookup code).Spares e)
    (hkeeps : ∀ code, (d.requests.lookup code).KeepsFace)
    (hstandard : d.model.Each Interface.Standard) (r : Request) :
    (d.handleRequest r).1.model.face = d.model.face := by
  by_cases htarget : r.target d.model.policy = .device
  · rw [handleRequest_of_target_eq_device htarget]
    exact hkeeps r.code ..
  · exact Model.face_eq_of_shape (shape_handleRequest htarget) fun position n =>
      stateOf?_handleRequest_of_standard rfl (fun code => hspares code _) hstandard r

/-- No action changes what the descriptors show. -/
theorem face_act (hspares : ∀ code e, (d.requests.lookup code).Spares e)
    (hkeeps : ∀ code, (d.requests.lookup code).KeepsFace)
    (hstandard : d.model.Each Interface.Standard) (a : Action) :
    (d.act a).model.face = d.model.face := by
  cases ha : a.request? with
  | none =>
    obtain ⟨state, hshape⟩ := shape_act_of_request?_eq_none ha d
    exact Model.face_eq_of_shape hshape fun position n =>
      stateOf?_act_of_request?_eq_none (fun _ => Interface.Part.noConfusion) ha d
  | some r =>
    rw [act_of_request?_eq_some ha]
    exact face_handleRequest hspares hkeeps hstandard r

/-- Whatever happens to a device, its model keeps the face. -/
theorem face_after {g : Gadget} (hg : g.Standard) (link : Link) (actions : List Action) :
    ((ofGadget g link).after actions).model.face = g.model.face := by
  induction actions using List.reverseRecOn with
  | nil => rfl
  | append_singleton before a ih =>
    have hrequests := (ofGadget g link).requests_after before
    have hstandard := hg.each_after Interface.standard_shape_iff hg.each link before
    rw [after_append, ← ih]
    exact face_act (hrequests ▸ hg.spares_lookup) (hrequests ▸ hg.keepsFace_lookup) hstandard a

/-- A standard gadget has the layouts that it had at first, whatever happened to it. -/
theorem layout?_after {g : Gadget} (hg : g.Standard) (link : Link) (actions : List Action)
    (type index : UInt8) :
    ((ofGadget g link).after actions).model.layout? type index = g.model.layout? type index := by
  rw [← Model.layout?_face, face_after hg, Model.layout?_face]

end Device

/-! ### What the host gets -/

/-- The call that answers a request for a descriptor: it sends the bytes, as far as the host takes
them, or stalls if there are none. -/
def Request.descriptorCall (r : Request) : Option Bytes → Call
  | some bytes => .send 0 (bytes.take r.length.toNat)
  | none => .stall

/-- When nothing is replaced, what goes out is the front of the canonical bytes, whatever the
application is told in between. -/
theorem Link.reply_emit {link told : Link} {l : Layout}
    (hconnected : link.transport.connected = true) (hsilent : link.app.ReplacesNothing)
    (htold : told.transport = (link.emit l).2.transport) (r : Request) (m : Model) :
    (told.reply r (link.emit l).1 m).failure = none ∧
      (told.reply r (link.emit l).1 m).link.transport.log =
        link.transport.log ++ [r.descriptorCall (some l.canonical)] := by
  obtain ⟨qs, bytes, ⟨hemit, -⟩, -, hcanonical⟩ := Layout.exists_builds link.app l link.history
  rw [Layout.emitAll_singleton] at hemit
  have htransport : told.transport = link.transport := htold
  have hbytes : (link.emit l).1 = l.canonical := by
    rw [emit, hemit]
    exact hcanonical hsilent
  rw [reply_of_connected (htransport ▸ hconnected), hbytes, htransport]
  exact ⟨rfl, rfl⟩

/-- Over a connected transport a stall goes out. -/
theorem Link.stall_of_connected {link : Link} (hconnected : link.transport.connected = true)
    (r : Request) (m : Model) :
    (link.stall m).failure = none ∧
      (link.stall m).link.transport.log = link.transport.log ++ [r.descriptorCall none] := by
  rw [stall, call_of_connected (r := r) (c := .stall) hconnected trivial]
  exact ⟨rfl, rfl⟩

/-- Over a connected transport, and when nothing is replaced, the handler answers with the
descriptor that is asked for. -/
def Handler.ServesDescriptors (h : Handler Model) : Prop :=
  ∀ speed r link m, link.transport.connected = true → link.app.ReplacesNothing →
    (h speed r link m).failure = none ∧
      (h speed r link m).link.transport.log = link.transport.log ++
        [r.descriptorCall (m.descriptor? r.descriptorType r.descriptorIndex)]

/-- The standard request for a descriptor serves what is asked for. -/
theorem StandardRequests.servesDescriptors : Handler.ServesDescriptors getDescriptor := by
  intro speed r link m hconnected hsilent
  unfold getDescriptor Model.descriptor?
  cases m.layout? r.descriptorType r.descriptorIndex with
  | none => exact Link.stall_of_connected hconnected r m
  | some layout => exact Link.reply_emit hconnected hsilent rfl r m

/-- A billboard's request for a descriptor serves what is asked for. -/
theorem BillboardProfile.servesDescriptors : Handler.ServesDescriptors getDescriptor := by
  intro speed r link m hconnected hsilent
  unfold getDescriptor Model.descriptor?
  cases m.layout? r.descriptorType r.descriptorIndex with
  | none => exact Link.stall_of_connected hconnected r m
  | some layout =>
    refine Link.reply_emit hconnected hsilent ?_ r m
    split <;> rfl

/-- A standard gadget serves the descriptors that are asked for. -/
theorem Gadget.Standard.servesDescriptors {g : Gadget} (h : g.Standard) :
    ((StandardRequests.requests.merge g.overrides).lookup
      RequestCode.getDescriptor).ServesDescriptors := by
  refine RequestTable.lookup_merge_of_forall StandardRequests.servesDescriptors ?_
  intro e he _
  rw [h.overrides e he]
  exact BillboardProfile.servesDescriptors

namespace Device

/-- The device answers the request with the call, and nothing fails. -/
def AnswersWith (d : Device) (r : Request) (c : Call) : Prop :=
  (d.handleRequest r).2 = none ∧
    (d.handleRequest r).1.link.transport.log = d.link.transport.log ++ [c]

/-- Asked for a descriptor, the device answers with the one that the model serves, or stalls if the
model has none. -/
def Shows (d : Device) (m : Model) : Prop :=
  ∀ r : Request, r.IsStandardTo .device → r.code = RequestCode.getDescriptor →
    d.link.transport.connected = true → d.link.app.ReplacesNothing →
      d.AnswersWith r (r.descriptorCall (m.descriptor? r.descriptorType r.descriptorIndex))

/-- A device that serves descriptors shows those of its model. -/
theorem shows_model {d : Device}
    (h : (d.requests.lookup RequestCode.getDescriptor).ServesDescriptors) : d.Shows d.model := by
  intro r hr hcode hconnected hsilent
  unfold AnswersWith
  rw [handleRequest_of_target_eq_device (Request.target_eq_device_iff.2 hr), RequestTable.dispatch,
    hcode]
  exact h d.model.speed r (d.link.note .setupReceived) d.model hconnected hsilent

/-- **Descriptors are stable under all that happens to a device.**  Afterwards the model serves the
descriptors that it served before, byte for byte, and has none where it had none; so the host gets
the same answers, as long as nothing is replaced. -/
theorem showsAlike_after {g : Gadget} (hg : g.Standard) (link : Link) (actions : List Action) :
    let d := (ofGadget g link).after actions
    (∀ type index, d.model.descriptor? type index = g.model.descriptor? type index) ∧
      d.Shows g.model := by
  intro d
  have hdescriptor : ∀ type index, d.model.descriptor? type index =
      g.model.descriptor? type index := fun type index =>
    congrArg (Option.map Layout.canonical) (layout?_after hg link actions type index)
  have hrequests : d.requests = StandardRequests.requests.merge g.overrides :=
    requests_after _ actions
  refine ⟨hdescriptor, fun r hr hcode hconnected hsilent => ?_⟩
  rw [← hdescriptor]
  exact shows_model (hrequests ▸ hg.servesDescriptors) r hr hcode hconnected hsilent

/-- The hypothesis of `Device.showsAlike_after` is satisfiable: a keyboard whose host has selected
another alternate setting, halted the endpoint and sent a SETUP packet that is too short still shows
the alternate setting 0, and has no object store. -/
theorem showsAlike_after_keyboard :
    ∃ m, Model.build {} [.keyboard] = .ok m ∧
      let d := (ofGadget { model := m } {}).after
        [.connect, .event (.setup [0, 9, 1, 0, 0, 0, 0, 0]), .event (.setup [1, 11, 2, 0, 0, 0, 0, 0]),
          .event (.setup [2, 3, 0, 0, 0x81, 0, 0, 0]), .event (.setup [0x80, 6])]
      let ask (type : UInt16) : Request :=
        { requestType := 0x80, code := RequestCode.getDescriptor, value := type <<< 8, length := 18 }
      d.model.descriptor? DescriptorType.configuration 0 =
          m.descriptor? DescriptorType.configuration 0 ∧
        (d.handleRequest (ask 2)).1.link.transport.log = d.link.transport.log ++
          [.send 0 [9, 2, 41, 0, 1, 1, 0, 0xc0, 0x32, 9, 4, 0, 0, 1, 3, 1, 1, 0]] ∧
        (d.handleRequest (ask 15)).1.link.transport.log = d.link.transport.log ++ [.stall] := by
  obtain ⟨m, hm⟩ : ∃ m, Model.build {} [.keyboard] = .ok m := ⟨_, rfl⟩
  have hstandard : m.Each Interface.Standard := by
    refine Model.each_build (fun i index h => ⟨h.requests, h.endpoints⟩) hm ?_
    exact List.forall_mem_singleton.2 (List.forall_mem_singleton.2
      ⟨rfl, List.forall_mem_singleton.2 rfl⟩)
  refine ⟨m, hm, ?_⟩
  intro d ask
  obtain ⟨hdescriptor, hshows⟩ := showsAlike_after (.plain hstandard) {}
    [.connect, .event (.setup [0, 9, 1, 0, 0, 0, 0, 0]), .event (.setup [1, 11, 2, 0, 0, 0, 0, 0]),
      .event (.setup [2, 3, 0, 0, 0x81, 0, 0, 0]), .event (.setup [0x80, 6])]
  cases hm
  have hconnected : d.link.transport.connected = true := by decide +kernel
  have hsilent : d.link.app.ReplacesNothing := fun _ _ _ => rfl
  have hconfiguration := (hshows (ask 2) (by decide) rfl hconnected hsilent).2
  have hstore := (hshows (ask 15) (by decide) rfl hconnected hsilent).2
  refine ⟨hdescriptor _ _, hconfiguration.trans ?_, hstore.trans ?_⟩
  · decide +kernel
  · decide +kernel

end Device

end UsbGadget
