/-
# The views of an interface

A host sees the same interface in three ways:

| it asks | for | is served by |
| --- | --- | --- |
| the device | the alternate setting of the interface at a position | the device's table |
| the interface | its alternate setting, a descriptor of a type | the interface's table |
| the device | the configuration, with all interfaces | the plan of the descriptor |

They never disagree (`Device.viewsAgree_after`).  In the whole descriptor the bytes
of an interface are its own header, its class descriptor, and all that belongs to
it (`Configuration.interfaceBytes_eq`), and what the interface is asked for is read
from the same state.  A request changes nothing there, and it comes to one attempt
at a call: `handleRequest_interface` for a request to an interface,
`handleRequest_deviceGetInterface` for the one to the device.
-/

import UsbGadget.Proofs.Failure
import UsbGadget.Proofs.PacketSizes
import UsbGadget.Proofs.Stability

namespace UsbGadget

/-! ### Descriptors -/

namespace Interface

/-- The class-specific descriptors and the endpoints. -/
def parts (i : Interface) (speed : Speed) : Bytes :=
  Layout.canonicalAll (i.classSpecific.map (·.interfaceLayout) ++ i.endpoints.map (·.layout speed))

/-- The canonical bytes of an interface are its header, its legacy descriptor and its parts. -/
theorem canonical_layout_eq_parts (i : Interface) (speed : Speed) :
    (i.layout speed).canonical = i.header ++ i.legacyDescriptor ++ i.parts speed := rfl

/-- An interface has a class descriptor if its class says so, and if there is one of that type. -/
theorem legacyDescriptor_of_class {i : Interface}
    (h : i.classCode = InterfaceClass.hid ∨ i.classCode = InterfaceClass.smartCard) :
    i.legacyDescriptor = (i.state.descriptors.find? DescriptorType.hid).getD [] := by
  rw [legacyDescriptor, InterfaceClass.legacyDescriptor?, if_pos h, Option.bind_some]

end Interface

namespace Configuration

/-- The bytes from where the interface at a position begins to where the next one would. -/
def interfaceBytes (c : Configuration) (e : Encoding) (speed : Speed) (position : Nat) : Bytes :=
  ((c.encoded e speed).drop (c.interfaceOffset speed position)).take
    (c.interfaceOffset speed (position + 1) - c.interfaceOffset speed position)

/-- An interface begins where the one before it ends. -/
theorem interfaceOffset_succ {c : Configuration} {position : Nat} {i : Interface}
    (h : c.interfaces[position]? = some i) (speed : Speed) :
    c.interfaceOffset speed (position + 1) =
      c.interfaceOffset speed position + (i.layout speed).canonical.length := by
  rw [interfaceOffset, interfaceOffset, List.take_add_one, h, Option.toList_some, List.map_append,
    Layout.canonicalAll_append, List.length_append, List.map_singleton, Layout.canonicalAll,
    Layout.canonicalAll, List.append_nil, Nat.add_assoc]

/-- The bytes between two offsets are those of the interface between them. -/
theorem interfaceBytes_eq {c : Configuration} {position : Nat} {i : Interface}
    (h : c.interfaces[position]? = some i) (e : Encoding) (speed : Speed) :
    c.interfaceBytes e speed position = i.header ++ i.legacyDescriptor ++ i.parts speed := by
  obtain ⟨rest, hrest⟩ := c.drop_encoded_layout e speed h
  rw [interfaceBytes, hrest, interfaceOffset_succ h, Nat.add_sub_cancel_left, List.take_left,
    i.canonical_layout_eq_parts]

end Configuration

/-! ### Requests -/

namespace Device

/-- The device after one attempt at a call, of which the application is told no more than that a
SETUP packet came in. -/
def attempted (d : Device) (c : Call) : Device × Option UsbError :=
  ({ d with
      link := { d.link with
        transport := d.link.transport.attempt c
        history := d.link.history ++ [.setupReceived] } },
    (d.link.transport.refusal? c).map .transport)

variable {d : Device} {r : Request} {c : Call} {i : Interface}

/-- What is left after one call is the call as it was attempted. -/
theorem afterAnswer_call (d : Device) (c : Call) :
    d.afterAnswer ((d.link.note .setupReceived).call c d.model) = d.attempted c := by
  rw [Link.call_eq]
  rfl

/-- While the transport is connected, an attempt to answer succeeds. -/
theorem answersWith_of_attempted (h : d.handleRequest r = d.attempted c) (hc : c.Answers r)
    (hconnected : d.link.transport.connected = true) : d.AnswersWith r c := by
  unfold AnswersWith
  rw [h, ← afterAnswer_call, Link.call_of_connected (by exact hconnected) hc]
  exact ⟨rfl, rfl⟩

/-- A request to an interface that makes one call comes to that call, and nothing else. -/
theorem handleRequest_interface (hr : r.IsStandardTo .interface)
    (hi : d.model.interface? (r.index.toNat % 256) = some i)
    (hcall : ∀ link, i.requests.dispatch d.model.speed r link i.state = link.call c i.state) :
    d.handleRequest r = d.attempted c := by
  have htarget : r.target d.model.policy = .interface (r.index.toNat % 256) :=
    (Request.Addresses.interface hr.1 hr.2).target_eq
  obtain ⟨put, hput, hserve⟩ := Model.serveInterface?_of_interface? hi
  rw [handleRequest, htarget, serve?, hserve, Option.getD_some, Interface.serve, hcall,
    Link.call_eq, ← afterAnswer_call, Link.call_eq]
  simp only [Answer.map, hput]

/-- The device replies with the alternate setting of the interface at the position. -/
theorem handleRequest_deviceGetInterface (hd : d.requests = StandardRequests.requests)
    (hr : r.IsStandardTo .device) (hcode : r.code = RequestCode.getInterface)
    (hi : d.model.interface? r.index.toNat = some i) :
    d.handleRequest r = d.attempted (.send 0 ([i.state.alternate].take r.length.toNat)) := by
  rw [handleRequest_of_lookup hd hr hcode (h := StandardRequests.getInterface) rfl,
    StandardRequests.getInterface, hi]
  exact afterAnswer_call d _

/-- The interface replies with its alternate setting. -/
theorem handleRequest_getInterface (hstandard : i.Standard) (hr : r.IsStandardTo .interface)
    (hcode : r.code = RequestCode.getInterface)
    (hi : d.model.interface? (r.index.toNat % 256) = some i) :
    d.handleRequest r = d.attempted (.send 0 ([i.state.alternate].take r.length.toNat)) := by
  have hlookup : i.requests.lookup r.code = Interface.State.getInterface := by
    rw [hstandard.requests, hcode]
    rfl
  refine handleRequest_interface hr hi fun link => ?_
  rw [RequestTable.dispatch, hlookup]
  rfl

/-- The interface replies with its descriptor of the type, or stalls if there is none. -/
theorem handleRequest_getDescriptor (hstandard : i.Standard) (hr : r.IsStandardTo .interface)
    (hcode : r.code = RequestCode.getDescriptor)
    (hi : d.model.interface? (r.index.toNat % 256) = some i) :
    d.handleRequest r =
      d.attempted (r.descriptorCall (i.state.descriptors.find? r.descriptorType)) := by
  have hlookup : i.requests.lookup r.code = Interface.State.getDescriptor := by
    rw [hstandard.requests, hcode]
    rfl
  refine handleRequest_interface hr hi fun link => ?_
  rw [RequestTable.dispatch, hlookup, Interface.State.getDescriptor]
  cases i.state.descriptors.find? r.descriptorType <;> rfl

/-! ### Agreement -/

/-- What the host sees of an interface at a position of a configuration.

* Asked for the alternate setting, the device and the interface send the same byte, and it stands in
  the header of the interface in every descriptor of the configuration.
* An interface of a class that has a class descriptor sends all that stands between its header and
  its parts, as far as the host takes it, or it stalls and nothing stands there. -/
structure ViewsAgree (d : Device) (c : Configuration) (position : Nat) (i : Interface) : Prop where
  alternate : ∃ alternate : UInt8,
    (∀ r : Request, r.IsStandardTo .device ∨ r.IsStandardTo .interface →
      r.code = RequestCode.getInterface → r.index.toNat = position → 1 ≤ r.length.toNat →
        d.handleRequest r = d.attempted (.send 0 [alternate])) ∧
    ∀ e speed, (c.interfaceBytes e speed position)[3]? = some alternate
  classDescriptor : i.classCode = InterfaceClass.hid ∨ i.classCode = InterfaceClass.smartCard →
    ∃ between : Bytes,
      (∀ e speed, c.interfaceBytes e speed position = i.header ++ between ++ i.parts speed) ∧
      ((∀ r : Request, r.IsStandardTo .interface → r.code = RequestCode.getDescriptor →
          r.descriptorType = 0x21 → r.index.toNat = position →
            d.handleRequest r = d.attempted (.send 0 (between.take r.length.toNat))) ∨
        between = [] ∧
          ∀ r : Request, r.IsStandardTo .interface → r.code = RequestCode.getDescriptor →
            r.descriptorType = 0x21 → r.index.toNat = position →
              d.handleRequest r = d.attempted .stall)

/-- The two requests, the descriptor and the legacy bytes show one and the same interface. -/
theorem viewsAgree {c : Configuration} {position : Nat}
    (hd : d.requests = StandardRequests.requests) (hstandard : i.Standard)
    (hc : d.model.activeConfiguration? = some c) (hi : c.interfaces[position]? = some i)
    (hposition : position < 256) : d.ViewsAgree c position i := by
  have hinterface : d.model.interface? position = some i := by
    rw [Model.interface?, hc, Option.bind_some, hi]
  -- An interface request reads the low byte of the index alone, which is all of the position.
  have hlow : ∀ r : Request, r.index.toNat = position →
      d.model.interface? (r.index.toNat % 256) = some i := by
    rintro r rfl
    rw [Nat.mod_eq_of_lt hposition]
    exact hinterface
  refine ⟨⟨i.state.alternate, fun r hr hcode hindex hlength => ?_, fun e speed => ?_⟩,
    fun hclass => ⟨i.legacyDescriptor, Configuration.interfaceBytes_eq hi, ?_⟩⟩
  · have htake : [i.state.alternate].take r.length.toNat = [i.state.alternate] :=
      List.take_of_length_le hlength
    rcases hr with hr | hr
    · rw [handleRequest_deviceGetInterface hd hr hcode (hindex ▸ hinterface), htake]
    · rw [handleRequest_getInterface hstandard hr hcode (hlow r hindex), htake]
  · rw [Configuration.interfaceBytes_eq hi, List.append_assoc]
    rfl
  · rw [Interface.legacyDescriptor_of_class hclass]
    cases hfind : i.state.descriptors.find? DescriptorType.hid with
    | some bytes =>
      refine .inl fun r hr hcode htype hindex => ?_
      rw [handleRequest_getDescriptor hstandard hr hcode (hlow r hindex), htype]
      exact congrArg (fun found => d.attempted (r.descriptorCall found)) hfind
    | none =>
      refine .inr ⟨rfl, fun r hr hcode htype hindex => ?_⟩
      rw [handleRequest_getDescriptor hstandard hr hcode (hlow r hindex), htype]
      exact congrArg (fun found => d.attempted (r.descriptorCall found)) hfind

/-- **The views of an interface agree.**  Whatever happened to a device with the standard requests,
of each interface of the active configuration the device and the interface reply with one alternate
setting, which is that of the descriptor; and behind the header of an interface whose class has a
class descriptor stands what the interface replies with when it is asked for that, and nothing if it
stalls. -/
theorem viewsAgree_after {m : Model} (hm : m.Each Interface.Standard) (link : Link)
    (actions : List Action) {c : Configuration} {position : Nat} {i : Interface}
    (hc : ((ofGadget { model := m } link).after actions).model.activeConfiguration? = some c)
    (hi : c.interfaces[position]? = some i) (hposition : position < 256) :
    ((ofGadget { model := m } link).after actions).ViewsAgree c position i := by
  have hafter : ((ofGadget { model := m } link).after actions).model.Each Interface.Standard :=
    Model.lasting_standard.after (d := ofGadget { model := m } link) hm actions
  exact viewsAgree (requests_after _ actions)
    (hafter c (Model.mem_configurations_of_active hc) i (List.mem_of_getElem? hi)) hc hi hposition

/-- The hypotheses of `Device.viewsAgree_after` are satisfiable: device and interface tell the host
of a keyboard that the alternate setting is 0, as the descriptor does, and the class descriptor that
the interface sends stands behind its header. -/
theorem viewsAgree_after_keyboard :
    ∃ m, Model.build {} [.keyboard] = .ok m ∧
      let d := (ofGadget { model := m } {}).after
        [.connect, .event (.setup [0, 9, 1, 0, 0, 0, 0, 0])]
      let askAlternate (requestType : UInt8) : Request :=
        { requestType := requestType, code := RequestCode.getInterface, length := 1 }
      let askDescriptor : Request :=
        { requestType := 0x81, code := RequestCode.getDescriptor, value := 0x2100, length := 9 }
      d.AnswersWith (askAlternate 0x80) (.send 0 [0]) ∧
        d.AnswersWith (askAlternate 0x81) (.send 0 [0]) ∧
        d.AnswersWith askDescriptor (.send 0 [9, 0x21, 0x11, 0x01, 0, 1, 0x22, 0x3f, 0]) := by
  obtain ⟨m, hm⟩ : ∃ m, Model.build {} [.keyboard] = .ok m := ⟨_, rfl⟩
  have hstandard : m.Each Interface.Standard := by
    refine Model.each_build (fun i index h => ⟨h.requests, h.endpoints⟩) hm ?_
    exact List.forall_mem_singleton.2 (List.forall_mem_singleton.2
      ⟨rfl, List.forall_mem_singleton.2 rfl⟩)
  refine ⟨m, hm, ?_⟩
  intro d askAlternate askDescriptor
  have hconnected : d.link.transport.connected = true := by
    cases hm
    decide +kernel
  obtain ⟨c, i, hclass, hbyte, hlegacy, hviews⟩ : ∃ c i, i.classCode = InterfaceClass.hid ∧
      (c.interfaceBytes .own .full 0)[3]? = some 0 ∧
      c.interfaceBytes .own .full 0 =
        i.header ++ [9, 0x21, 0x11, 0x01, 0, 1, 0x22, 0x3f, 0] ++ i.parts .full ∧
      d.ViewsAgree c 0 i := by
    cases hm
    refine ⟨_, _, ?_, ?_, ?_, viewsAgree_after hstandard {} _ rfl rfl (by decide)⟩
    · rfl
    · decide +kernel
    · decide +kernel
  obtain ⟨alternate, hreplies, hdescriptor⟩ := hviews.alternate
  obtain rfl : 0 = alternate := Option.some.inj (hbyte.symm.trans (hdescriptor .own .full))
  obtain ⟨between, hbetween, hanswer⟩ := hviews.classDescriptor (.inl hclass)
  obtain rfl : _ = between := List.append_cancel_left
    (List.append_cancel_right (hlegacy.symm.trans (hbetween .own .full)))
  refine ⟨?_, ?_, ?_⟩
  · exact answersWith_of_attempted
      (hreplies (askAlternate 0x80) (.inl (by decide)) rfl rfl (by decide))
      ⟨rfl, Nat.le_refl _⟩ hconnected
  · exact answersWith_of_attempted
      (hreplies (askAlternate 0x81) (.inr (by decide)) rfl rfl (by decide))
      ⟨rfl, Nat.le_refl _⟩ hconnected
  · rcases hanswer with hanswer | ⟨hnone, -⟩
    · exact answersWith_of_attempted
        (hanswer askDescriptor (by decide) rfl (by decide) rfl) ⟨rfl, Nat.le_refl _⟩ hconnected
    · cases hnone

end Device

end UsbGadget
