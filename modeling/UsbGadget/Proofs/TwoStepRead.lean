/-
# A host reads a descriptor in two steps

A host that does not know how long a descriptor is asks for its header first,
finds the length of the whole there, and then asks for that many bytes:

| descriptor | header | the length of the whole |
| --- | ---: | --- |
| configuration, either encoding | 9 bytes | bytes 2 and 3 |
| object store | 5 bytes | bytes 2 and 3 |

A request for a descriptor leaves the model as it is and the transport connected
(`Device.handleRequest_of_asksFor`).  What goes out is the front of the
descriptor, as long as the host takes it; so what one request brings is the front
of what a longer one brings.  Where the length of the whole fits its two bytes,
the second request brings everything (`Device.readsInTwoSteps_of_wordAt?`), and it
always fits for an object store of at most 255 capabilities.
-/

import UsbGadget.Proofs.PacketSizes
import UsbGadget.Proofs.Stability

namespace UsbGadget

/-- A word in the front of a string is that of the string. -/
theorem Bytes.wordAt?_take {n offset : Nat} (h : offset + 1 < n) (bytes : Bytes) :
    wordAt? (bytes.take n) offset = wordAt? bytes offset := by
  rw [wordAt?, List.getElem?_take_of_lt (by omega), List.getElem?_take_of_lt h, wordAt?]

namespace Model

/-- What a model serves at its own speed is what the host gets when nothing is replaced. -/
theorem servedAt?_speed (m : Model) (type index : UInt8) :
    m.servedAt? m.speed type index = m.descriptor? type index := by
  unfold servedAt? descriptor?
  simp only [Layout.emit_disabled]

/-- The descriptors that an index leads to are those of one configuration. -/
theorem exists_encoded {m : Model} {e : Configuration.Encoding} {index : UInt8} {full : Bytes}
    (h : m.descriptor? e.type index = some full) :
    ∃ (c : Configuration) (speed : Speed), full = c.encoded e speed := by
  rw [← servedAt?_speed] at h
  cases e with
  | own =>
    obtain ⟨c, -, rfl⟩ :=
      Option.map_eq_some_iff.1 ((m.servedAt?_configuration _ index).symm.trans h)
    exact ⟨c, _, rfl⟩
  | otherSpeed =>
    obtain ⟨c, -, rfl⟩ :=
      Option.map_eq_some_iff.1 ((m.servedAt?_otherSpeedConfiguration _ index).symm.trans h)
    exact ⟨c, _, rfl⟩

/-- A model with an object store serves its encoding. -/
theorem descriptor?_objectStore {m : Model} {store : ObjectStore} (h : m.objectStore = some store)
    (index : UInt8) : m.descriptor? DescriptorType.objectStore index = some store.encoded := by
  show (m.objectStore.map (·.layout)).map (·.canonical) = _
  rw [h, ObjectStore.encoded, Layout.emit_disabled]
  rfl

end Model

/-- The encoding of a configuration has at least its nine header bytes. -/
theorem Configuration.length_encoded_ge (c : Configuration) (e : Encoding) (speed : Speed) :
    9 ≤ (c.encoded e speed).length := by
  rw [encoded_eq, frame_eq, List.length_append, length_header]
  omega

/-- The encoding of a store has at least its five header bytes. -/
theorem ObjectStore.length_encoded_ge (s : ObjectStore) : 5 ≤ s.encoded.length := by
  rw [encoded_eq, frame]
  simp only [List.length_append, List.length_cons, List.length_nil, Bytes.length_ofWord]
  omega

/-- While a descriptor is built and nothing is replaced, the application is told of it, and that is
all. -/
theorem Link.emit_of_replacesNothing {link : Link} (h : link.app.ReplacesNothing) (l : Layout) :
    ∃ history, link.emit l = (l.canonical, { link with history := history }) := by
  obtain ⟨qs, bytes, ⟨hemit, -⟩, -, hcanonical⟩ := Layout.exists_builds link.app l link.history
  rw [Layout.emitAll_singleton] at hemit
  rw [emit, hemit, hcanonical h]
  exact ⟨_, rfl⟩

/-- The request asks a device for the descriptor with a type and an index. -/
def Request.AsksFor (r : Request) (type index : UInt8) : Prop :=
  r.IsStandardTo .device ∧ r.code = RequestCode.getDescriptor ∧ r.descriptorType = type ∧
    r.descriptorIndex = index

instance (r : Request) (type index : UInt8) : Decidable (r.AsksFor type index) :=
  inferInstanceAs (Decidable (_ ∧ _))

namespace Device

variable {d : Device} {r : Request} {type index : UInt8} {full : Bytes}

/-- The device once it has answered with a call, and has told the application things. -/
def answeredWith (d : Device) (c : Call) (history : List Callback) : Device :=
  { d with link := { d.link with transport := d.link.transport.record c, history := history } }

/-- A descriptor is sent, as far as the host takes it, and the model stays. -/
theorem handleRequest_of_asksFor (hd : d.requests = StandardRequests.requests)
    (hconnected : d.link.transport.connected = true) (hsilent : d.link.app.ReplacesNothing)
    (hr : r.AsksFor type index) (hfull : d.model.descriptor? type index = some full) :
    ∃ history, d.handleRequest r =
      (d.answeredWith (.send 0 (full.take r.length.toNat)) history, none) := by
  obtain ⟨hstandard, hcode, rfl, rfl⟩ := hr
  obtain ⟨layout, hlayout, rfl⟩ := Option.map_eq_some_iff.1 hfull
  have hnoted : (d.link.note .setupReceived).app.ReplacesNothing := hsilent
  obtain ⟨history, hemit⟩ := Link.emit_of_replacesNothing hnoted layout
  refine ⟨history, ?_⟩
  rw [handleRequest_of_lookup hd hstandard hcode (h := StandardRequests.getDescriptor) rfl,
    StandardRequests.getDescriptor, hlayout]
  dsimp only
  rw [hemit]
  dsimp only
  rw [Link.reply_of_connected (by exact hconnected)]
  rfl

/-- The host reads all of a descriptor in two steps: the first `n` bytes are there and say how many
bytes there are, and asked for that many, the device sends the whole. -/
def ReadsInTwoSteps (d : Device) (type index : UInt8) (n : Nat) (full : Bytes) : Prop :=
  n ≤ full.length ∧ ∃ total, Bytes.wordAt? (full.take n) 2 = some total ∧
    ∀ first : Request, first.AsksFor type index → first.length.toNat = n →
      d.AnswersWith first (.send 0 (full.take n)) ∧
        ∀ second : Request, second.AsksFor type index → second.length.toNat = total →
          (d.handleRequest first).1.AnswersWith second (.send 0 full)

section

variable (hd : d.requests = StandardRequests.requests)
  (hconnected : d.link.transport.connected = true) (hsilent : d.link.app.ReplacesNothing)
include hd hconnected hsilent

/-- A read of a descriptor is answered with as much of it as was asked for. -/
theorem answersWith_of_asksFor (hr : r.AsksFor type index)
    (hfull : d.model.descriptor? type index = some full) :
    d.AnswersWith r (.send 0 (full.take r.length.toNat)) := by
  obtain ⟨history, h⟩ := handleRequest_of_asksFor hd hconnected hsilent hr hfull
  unfold AnswersWith
  rw [h]
  exact ⟨rfl, rfl⟩

/-- The header has to reach as far as the length of the whole, which has to be right. -/
theorem readsInTwoSteps_of_wordAt? {n : Nat} (hfull : d.model.descriptor? type index = some full)
    (htotal : full.wordAt? 2 = some full.length) (hn : 4 ≤ n) (hle : n ≤ full.length) :
    d.ReadsInTwoSteps type index n full := by
  refine ⟨hle, full.length, ?_, fun first hfirst hlength => ?_⟩
  · rw [Bytes.wordAt?_take (show 2 + 1 < n by omega), htotal]
  · have hanswer := answersWith_of_asksFor hd hconnected hsilent hfirst hfull
    rw [hlength] at hanswer
    refine ⟨hanswer, fun second hsecond hwhole => ?_⟩
    -- The second request finds the model, the table and the connection that the first one found.
    obtain ⟨history, h⟩ := handleRequest_of_asksFor hd hconnected hsilent hfirst hfull
    have hagain : (d.handleRequest first).1.AnswersWith second
        (.send 0 (full.take second.length.toNat)) := by
      rw [h]
      exact answersWith_of_asksFor (d := d.answeredWith _ history) hd hconnected hsilent hsecond
        hfull
    rwa [hwhole, List.take_length] at hagain

end

/-- How a host reads the descriptors of a device.

* What a request brings is the front of the descriptor, of the length that the host takes or of the
  whole; so it is the front of what a longer request brings.
* Either descriptor of a configuration that has at most 65535 bytes is read in two steps, and so is
  an object store of at most 255 capabilities. -/
structure ReadsDescriptors (d : Device) : Prop where
  front : ∀ type index full, d.model.descriptor? type index = some full →
    ∀ r : Request, r.AsksFor type index →
      d.AnswersWith r (.send 0 (full.take (min r.length.toNat full.length)))
  grows : ∀ type index full, d.model.descriptor? type index = some full →
    ∀ r longer : Request, r.AsksFor type index → longer.AsksFor type index →
      r.length ≤ longer.length → ∃ short long,
        d.AnswersWith r (.send 0 short) ∧ d.AnswersWith longer (.send 0 long) ∧ short <+: long
  configuration : ∀ (e : Configuration.Encoding) index full,
    d.model.descriptor? e.type index = some full → full.length ≤ 65535 →
      d.ReadsInTwoSteps e.type index 9 full
  objectStore : ∀ index store, d.model.objectStore = some store → store.capabilities.length ≤ 255 →
    ∃ full, d.model.descriptor? DescriptorType.objectStore index = some full ∧
      d.ReadsInTwoSteps DescriptorType.objectStore index 5 full

/-- **A host reads descriptors in two steps.**  Whatever happened to a device with the standard
requests, while it is connected and nothing is replaced, a request for a descriptor brings as much
of its front as the host takes.  The header says how long the whole is, and a request for that many
bytes brings all of it, nothing missing and nothing beyond. -/
theorem readsDescriptors_after (m : Model) (link : Link) (actions : List Action)
    (hconnected : ((ofGadget { model := m } link).after actions).link.transport.connected = true)
    (hsilent : ((ofGadget { model := m } link).after actions).link.app.ReplacesNothing) :
    ((ofGadget { model := m } link).after actions).ReadsDescriptors := by
  have hd : ((ofGadget { model := m } link).after actions).requests = StandardRequests.requests :=
    requests_after _ actions
  refine ⟨fun type index full hfull r hr => ?_,
    fun type index full hfull r longer hr hlonger hle => ?_,
    fun e index full hfull hfits => ?_, fun index store hstore hcount => ?_⟩
  · rw [← List.take_eq_take_min]
    exact answersWith_of_asksFor hd hconnected hsilent hr hfull
  · exact ⟨_, _, answersWith_of_asksFor hd hconnected hsilent hr hfull,
      answersWith_of_asksFor hd hconnected hsilent hlonger hfull, List.take_prefix_take_left hle⟩
  · obtain ⟨c, speed, rfl⟩ := Model.exists_encoded hfull
    have htotal := c.wordAt?_encoded e speed
    rw [Nat.mod_eq_of_lt (by omega)] at htotal
    exact readsInTwoSteps_of_wordAt? hd hconnected hsilent hfull htotal (by omega)
      (c.length_encoded_ge e speed)
  · have hfull := Model.descriptor?_objectStore hstore index
    exact ⟨_, hfull, readsInTwoSteps_of_wordAt? hd hconnected hsilent hfull
      (store.exact_iff.2 hcount).total (by omega) store.length_encoded_ge⟩

/-- The hypotheses of `Device.readsDescriptors_after` are satisfiable: a keyboard that is connected
and configured sends the header of its configuration to a host that takes 9 bytes.  The header says
that there are 41, and a host that takes 41 gets the configuration, endpoint and all. -/
theorem readsDescriptors_after_keyboard :
    ∃ m, Model.build {} [.keyboard] = .ok m ∧
      let d := (ofGadget { model := m } {}).after
        [.connect, .event (.setup [0, 9, 1, 0, 0, 0, 0, 0])]
      let ask (n : UInt16) : Request :=
        { requestType := 0x80, code := RequestCode.getDescriptor, value := 0x0200, length := n }
      d.AnswersWith (ask 9) (.send 0 [9, 2, 41, 0, 1, 1, 0, 0xc0, 0x32]) ∧
        (d.handleRequest (ask 9)).1.AnswersWith (ask 41)
          (.send 0 (Configuration.keyboard.encoded .own .full)) := by
  obtain ⟨m, hm⟩ : ∃ m, Model.build {} [.keyboard] = .ok m := ⟨_, rfl⟩
  refine ⟨m, hm, ?_⟩
  intro d ask
  have hreads : d.ReadsDescriptors := by
    cases hm
    exact readsDescriptors_after _ {} _ (by decide +kernel) fun _ _ _ => rfl
  have hfull : d.model.descriptor? DescriptorType.configuration 0 =
      some (Configuration.keyboard.encoded .own .full) := by
    cases hm
    decide +kernel
  obtain ⟨-, total, htotal, hread⟩ := hreads.configuration .own 0 _ hfull (by decide)
  obtain rfl : 41 = total := Option.some.inj ((by decide : _ = some 41).symm.trans htotal)
  obtain ⟨hheader, hwhole⟩ := hread (ask 9) (by decide) rfl
  exact ⟨hheader, hwhole (ask 41) (by decide) rfl⟩

end Device

end UsbGadget
