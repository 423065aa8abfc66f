/-
# Building a descriptor is a conversation

While a descriptor is built, the application is asked at every stage what goes
out in place of the canonical bytes, and what it answers may depend on all that
it was told before.  A `Query` is one such question with its outcome, and a
`Conversation` is a list of them in which every outcome is the application's:
its replacement, byte for byte, or else the canonical bytes.

Every plan is built by a conversation (`Layout.exists_builds`).  Those of a
configuration have the form of its tree: a `ConfigurationBuild` has one query
for every node, and the canonical bytes of a node are its header in front of
what the nodes below it came to, replaced or not (`emit_plan`).

The headers are written as numbers, one for each byte:

| node | header |
| --- | --- |
| configuration | 9, 2 or 7, total (two bytes), interfaces, value, string, attributes, power |
| interface | 9, 4, number, alternate setting, endpoints, class, subclass, protocol, string |
| endpoint | 7, 5, address, attributes, largest packet (two bytes), interval |
| class-specific | length, `24` or `25` |
-/

import Mathlib.Data.List.Forall2
import UsbGadget.Proofs.DescriptorStream

namespace UsbGadget

/-- A question of a build to the application: the stage, the canonical bytes that it is told, and
the bytes that the stage came to. -/
structure Query where
  stage : Stage
  canonical : Bytes
  returned : Bytes

/-- What the application is told. -/
def Query.callback (q : Query) : Callback := .queried q.stage q.canonical

/-- The history after queries. -/
def askedAfter (history : List Callback) (qs : List Query) : List Callback :=
  history ++ qs.map Query.callback

/-- Every query came to what the application answers, given the history and the queries before it:
its replacement, or else the canonical bytes. -/
def Conversation (app : Application) : List Callback → List Query → Prop
  | _, [] => True
  | history, q :: qs =>
    q.returned = (app.mutation history q.stage q.canonical).getD q.canonical ∧
      Conversation app (history ++ [q.callback]) qs

variable {app : Application}

/-- Asking nothing leaves the history as it was. -/
@[simp] theorem askedAfter_nil (history : List Callback) : askedAfter history [] = history :=
  List.append_nil history

/-- Asking two lists of queries is asking the first and then the second. -/
theorem askedAfter_append (history : List Callback) (qs rs : List Query) :
    askedAfter history (qs ++ rs) = askedAfter (askedAfter history qs) rs := by
  rw [askedAfter, askedAfter, askedAfter, List.map_append, List.append_assoc]

/-- Two lists of queries are a conversation when the second continues the first. -/
theorem conversation_append {history : List Callback} {qs rs : List Query} :
    Conversation app history (qs ++ rs) ↔
      Conversation app history qs ∧ Conversation app (askedAfter history qs) rs := by
  induction qs generalizing history with
  | nil => rw [List.nil_append, askedAfter_nil, Conversation, true_and]
  | cons q qs ih =>
    rw [List.cons_append, Conversation, ih, Conversation, and_assoc, askedAfter, askedAfter,
      List.append_assoc, List.singleton_append, List.map_cons]

/-- The application leaves all bytes as they are. -/
def Application.ReplacesNothing (app : Application) : Prop :=
  ∀ history stage bytes, app.mutation history stage bytes = none

namespace Layout

/-- Two lists of layouts are emitted one after the other, by the same provider. -/
theorem emitAll_append (m : Mutator) (ls ms : List Layout) :
    emitAll m (ls ++ ms) = ((emitAll m ls).1 ++ (emitAll (emitAll m ls).2 ms).1,
      (emitAll (emitAll m ls).2 ms).2) := by
  induction ls generalizing m with
  | nil => rfl
  | cons l ls ih =>
    rw [List.cons_append, emitAll, emitAll]
    dsimp only
    rw [ih, List.append_assoc]

/-- Emitting a list of one layout is emitting that layout. -/
theorem emitAll_singleton (m : Mutator) (l : Layout) : emitAll m [l] = emit m l := by
  rw [emitAll]
  dsimp only
  rw [emitAll, List.append_nil]

/-- After `history` the plans are built, one after the other, by the conversation `qs` and come to
`bytes`. -/
def Builds (app : Application) (history : List Callback) (ls : List Layout) (qs : List Query)
    (bytes : Bytes) : Prop :=
  emitAll ⟨some app, history⟩ ls = (bytes, ⟨some app, askedAfter history qs⟩) ∧
    Conversation app history qs

/-- No layouts build no bytes and ask nothing. -/
theorem builds_nil (app : Application) (history : List Callback) : Builds app history [] [] [] := by
  refine ⟨?_, trivial⟩
  rw [emitAll, askedAfter_nil]

/-- Two parts that are built one after the other are built as a whole. -/
theorem Builds.append {history : List Callback} {ls ms : List Layout} {qs rs : List Query}
    {head tail : Bytes} (h : Builds app history ls qs head)
    (hs : Builds app (askedAfter history qs) ms rs tail) :
    Builds app history (ls ++ ms) (qs ++ rs) (head ++ tail) := by
  refine ⟨?_, conversation_append.2 ⟨h.2, hs.2⟩⟩
  rw [emitAll_append, h.1, hs.1, askedAfter_append]

/-- The stage of a plan is asked for after its parts, with the frame around what these came to. -/
theorem Builds.node {history : List Callback} {parts : List Layout} {qs : List Query} {body : Bytes}
    (h : Builds app history parts qs body) (stage : Stage) (frame : Bytes → Bytes) :
    ∃ q : Query, q.stage = stage ∧ q.canonical = frame body ∧
      Builds app history [node stage frame parts] (qs ++ [q]) q.returned := by
  let q : Query :=
    ⟨stage, frame body, (app.mutation (askedAfter history qs) stage (frame body)).getD (frame body)⟩
  refine ⟨q, rfl, rfl, ?_, conversation_append.2 ⟨h.2, rfl, trivial⟩⟩
  rw [emitAll_singleton, emit, h.1, askedAfter_append]
  rfl

/-- If the plan of every element is built in some way, so are the plans of a list, with one
conversation for each. -/
theorem builds_map {α τ : Type} {plan : α → Layout} {R : α → τ → Prop} {queries : τ → List Query}
    {bytes : τ → Bytes}
    (h : ∀ a history, ∃ t, R a t ∧ Builds app history [plan a] (queries t) (bytes t))
    (as : List α) (history : List Callback) :
    ∃ ts, List.Forall₂ R as ts ∧
      Builds app history (as.map plan) (ts.flatMap queries) (ts.flatMap bytes) := by
  induction as generalizing history with
  | nil => exact ⟨[], .nil, builds_nil app history⟩
  | cons a as ih =>
    obtain ⟨t, hat, ht⟩ := h a history
    obtain ⟨ts, hats, hts⟩ := ih (askedAfter history (queries t))
    exact ⟨t :: ts, .cons hat hats, ht.append hts⟩

/-- The plan of a descriptor without parts is built by one query. -/
theorem builds_leaf (history : List Callback) (stage : Stage) (canonical : Bytes) :
    ∃ q : Query, (q.stage = stage ∧ q.canonical = canonical) ∧
      Builds app history [leaf stage canonical] [q] q.returned := by
  obtain ⟨q, hstage, hcanonical, hq⟩ :=
    (builds_nil app history).node stage fun _ => canonical
  exact ⟨q, ⟨hstage, hcanonical⟩, hq⟩

mutual

/-- **Every plan is built by a conversation** that goes through the stages of the plan, and one in
which nothing is replaced comes to the canonical bytes. -/
theorem exists_builds (app : Application) : ∀ (l : Layout) (history : List Callback),
    ∃ qs bytes, Builds app history [l] qs bytes ∧ qs.map (·.stage) = stages l ∧
      (app.ReplacesNothing → bytes = canonical l)
  | node stage frame parts, history => by
    obtain ⟨qs, body, h, hstages, hbody⟩ := exists_buildsAll app parts history
    obtain ⟨q, hstage, hcanonical, hq⟩ := h.node stage frame
    refine ⟨qs ++ [q], q.returned, hq, ?_, fun hsilent => ?_⟩
    · rw [List.map_append, hstages, List.map_singleton, hstage, stages]
    · have hreturned : q.returned = q.canonical := by
        rw [(conversation_append.1 hq.2).2.1, hsilent, Option.getD_none]
      rw [hreturned, hcanonical, hbody hsilent, canonical]

/-- Every list of layouts is built in some way: the queries name its stages, and a provider that
replaces nothing leaves the canonical bytes. -/
theorem exists_buildsAll (app : Application) : ∀ (ls : List Layout) (history : List Callback),
    ∃ qs bytes, Builds app history ls qs bytes ∧ qs.map (·.stage) = stagesAll ls ∧
      (app.ReplacesNothing → bytes = canonicalAll ls)
  | [], history => ⟨[], [], builds_nil app history, rfl, fun _ => rfl⟩
  | l :: ls, history => by
    obtain ⟨qs, head, h, hstages, hhead⟩ := exists_builds app l history
    obtain ⟨rs, tail, hs, hstages', htail⟩ := exists_buildsAll app ls (askedAfter history qs)
    refine ⟨qs ++ rs, head ++ tail, h.append hs, ?_, fun hsilent => ?_⟩
    · rw [List.map_append, hstages, hstages', stagesAll]
    · rw [hhead hsilent, htail hsilent, canonicalAll]

end

/-- What plans come to is determined by the application and the history. -/
theorem Builds.bytes_eq {history : List Callback} {ls : List Layout} {qs rs : List Query}
    {bytes others : Bytes} (h : Builds app history ls qs bytes)
    (h' : Builds app history ls rs others) : bytes = others :=
  congrArg Prod.fst (h.1.symm.trans h'.1)

/-- A provider that replaces nothing leaves the canonical bytes of a layout. -/
theorem Builds.eq_canonical {history : List Callback} {l : Layout} {qs : List Query}
    {bytes : Bytes} (h : Builds app history [l] qs bytes) (hsilent : app.ReplacesNothing) :
    bytes = l.canonical := by
  obtain ⟨rs, others, h', -, hothers⟩ := exists_builds app l history
  rw [h.bytes_eq h', hothers hsilent]

end Layout

/-! ### Headers -/

/-- The bytes are a header, byte for byte of these numbers, in front of the rest. -/
def Headed (numbers : List Nat) (rest bytes : Bytes) : Prop :=
  ∃ header : Bytes, header.map UInt8.toNat = numbers ∧ bytes = header ++ rest

/-- The number of a transfer type in the standard. -/
def TransferType.number : TransferType → Nat
  | control => 0
  | isochronous => 1
  | bulk => 2
  | interrupt => 3

/-- The number of a synchronisation in the standard. -/
def Synchronisation.number : Synchronisation → Nat
  | unsynchronised => 0
  | asynchronous => 1
  | adaptive => 2
  | synchronous => 3

/-- The number of a usage in the standard. -/
def Usage.number : Usage → Nat
  | data => 0
  | feedback => 1
  | implicitFeedback => 2

/-- The header of an endpoint: the direction is bit 7 of the address, the attributes hold three
numbers of two bits each, and at high speed the largest packet has 512 bytes. -/
def Endpoint.headerNumbers (ep : Endpoint) (speed : Speed) : List Nat :=
  let address := ep.number.toNat + if ep.direction = .deviceToHost then 128 else 0
  let attributes :=
    ep.transferType.number + 4 * ep.synchronisation.number + 16 * ep.usage.number
  let packet := if speed = .high then 512 else ep.maxPacketSize.toNat
  [7, 5, address, attributes, packet % 256, packet / 256, ep.interval.toNat]

/-- The header of an interface, which counts its endpoints modulo 256. -/
def Interface.headerNumbers (i : Interface) : List Nat :=
  [9, 4, i.number.toNat, i.state.alternate.toNat, i.endpoints.length % 256, i.classCode.toNat,
    i.subclassCode.toNat, i.protocolCode.toNat, i.stringIndex.toNat]

/-- The header of a configuration, given the number of all bytes; interfaces are counted modulo
256. -/
def Configuration.headerNumbers (c : Configuration) (e : Configuration.Encoding) (total : Nat) :
    List Nat :=
  [9, if e = .own then 2 else 7, total % 256, total / 256, c.interfaces.length % 256,
    c.value.toNat, c.stringIndex.toNat, c.attributes.toNat, c.maxPower.toNat]

/-- The number and the direction of an endpoint add up to its address. -/
theorem Endpoint.toNat_address (ep : Endpoint) :
    ep.address.toNat = ep.number.toNat + if ep.direction = .deviceToHost then 128 else 0 := by
  have haddress : ∀ n < 16, ∀ direction : Direction,
      (UInt8.ofNat n ||| direction.addressBit).toNat =
        (UInt8.ofNat n).toNat + if direction = .deviceToHost then 128 else 0 := by
    intro n hn direction
    cases direction <;> revert n <;> decide
  have h := haddress ep.number.toNat (UInt8.lt_iff_toNat_lt.1 ep.number_lt) ep.direction
  rwa [UInt8.ofNat_toNat] at h

/-- Transfer type, synchronisation and usage of an endpoint add up to its attributes. -/
theorem Endpoint.toNat_attributes (ep : Endpoint) : ep.attributes.toNat =
    ep.transferType.number + 4 * ep.synchronisation.number + 16 * ep.usage.number := by
  rw [attributes]
  cases ep.transferType <;> cases ep.synchronisation <;> cases ep.usage <;> rfl

/-- The header of an endpoint has the numbers of a header. -/
theorem Endpoint.map_toNat_header (ep : Endpoint) (speed : Speed) :
    (ep.header speed).map UInt8.toNat = ep.headerNumbers speed := by
  have hpacket : (ep.packetSize speed).toNat =
      if speed = .high then 512 else ep.maxPacketSize.toNat := by
    cases speed <;> rfl
  show [7, 5, ep.address.toNat, ep.attributes.toNat, (ep.packetSize speed).toUInt8.toNat,
    (ep.packetSize speed >>> 8).toUInt8.toNat, ep.interval.toNat] = _
  rw [toNat_address, toNat_attributes, Bytes.toNat_low, Bytes.toNat_high, hpacket, headerNumbers]

/-- The header of an interface has the numbers of a header. -/
theorem Interface.map_toNat_header (i : Interface) :
    i.header.map UInt8.toNat = i.headerNumbers := by
  show [9, 4, _, _, (UInt8.ofNat i.endpoints.length).toNat, _, _, _, _] = _
  rw [UInt8.toNat_ofNat']
  rfl

/-- The header of a configuration has the numbers of a header, with the total modulo 65536. -/
theorem Configuration.map_toNat_header (c : Configuration) (e : Configuration.Encoding)
    (total : Nat) :
    (c.header e total).map UInt8.toNat = c.headerNumbers e (total % 65536) := by
  have htype : e.type.toNat = if e = .own then 2 else 7 := by cases e <;> rfl
  show [9, e.type.toNat, (UInt16.ofNat total).toUInt8.toNat,
    (UInt16.ofNat total >>> 8).toUInt8.toNat, (UInt8.ofNat c.interfaces.length).toNat,
    _, _, _, _] = _
  rw [htype, Bytes.toNat_low, Bytes.toNat_high, UInt16.toNat_ofNat', UInt8.toNat_ofNat']
  rfl

/-- A class-specific descriptor is its length and its type in front of the payload. -/
theorem ClassSpecific.headed_bytes (d : ClassSpecific) (type : UInt8) :
    Headed [d.payload.length + 2, type.toNat] d.payload (d.bytes type) := by
  have hfits := d.fits
  refine ⟨[Bytes.countByte (d.payload.length + 2), type], ?_, rfl⟩
  rw [List.map_cons, List.map_singleton, toNat_countByte (by omega)]

/-- The class descriptor of an interface is the HID one, if the class is HID or smart card and there
is one. -/
theorem Interface.legacyDescriptor_eq_ite (i : Interface) : i.legacyDescriptor =
    if i.classCode = 0x03 ∨ i.classCode = 0x0b then (i.state.descriptors.find? 0x21).getD []
    else [] := by
  rw [legacyDescriptor, InterfaceClass.legacyDescriptor?]
  by_cases h : i.classCode = InterfaceClass.hid ∨ i.classCode = InterfaceClass.smartCard
  · rw [if_pos h, if_pos (show i.classCode = 0x03 ∨ i.classCode = 0x0b from h)]
    rfl
  · rw [if_neg h, if_neg (show ¬ (i.classCode = 0x03 ∨ i.classCode = 0x0b) from h)]
    rfl

/-! ### The queries of a tree -/

/-- What was asked while an endpoint was built. -/
structure EndpointBuild where
  classSpecific : List Query
  own : Query

/-- What was asked while an interface was built. -/
structure InterfaceBuild where
  classSpecific : List Query
  endpoints : List EndpointBuild
  own : Query

/-- What was asked while a configuration was built. -/
structure ConfigurationBuild where
  interfaces : List InterfaceBuild
  own : Query

/-- The queries of an endpoint, in order. -/
def EndpointBuild.queries (b : EndpointBuild) : List Query := b.classSpecific ++ [b.own]

/-- The queries of an interface, in order. -/
def InterfaceBuild.queries (b : InterfaceBuild) : List Query :=
  b.classSpecific ++ b.endpoints.flatMap (·.queries) ++ [b.own]

/-- The queries of a configuration, in order. -/
def ConfigurationBuild.queries (b : ConfigurationBuild) : List Query :=
  b.interfaces.flatMap (·.queries) ++ [b.own]

/-- The queries of an endpoint are those of its class-specific descriptors and, with what these came
to behind its header, its own. -/
structure EndpointBuild.Of (ep : Endpoint) (speed : Speed) (b : EndpointBuild) : Prop where
  classSpecific : List.Forall₂ (fun d q => q.stage = .classSpecificEndpointDescriptor ∧
    Headed [d.payload.length + 2, 0x25] d.payload q.canonical) ep.classSpecific b.classSpecific
  stage : b.own.stage = .endpointDescriptor
  canonical : Headed (ep.headerNumbers speed) (b.classSpecific.flatMap (·.returned)) b.own.canonical

/-- The queries of an interface are those of its class-specific descriptors, those of its endpoints
and, with what these came to behind its header and its class descriptor, its own.  A class
descriptor stands there for HID and smart cards, if the interface has one of type `21`. -/
structure InterfaceBuild.Of (i : Interface) (speed : Speed) (b : InterfaceBuild) : Prop where
  classSpecific : List.Forall₂ (fun d q => q.stage = .classSpecificInterfaceDescriptor ∧
    Headed [d.payload.length + 2, 0x24] d.payload q.canonical) i.classSpecific b.classSpecific
  endpoints : List.Forall₂ (fun ep eb => eb.Of ep speed) i.endpoints b.endpoints
  stage : b.own.stage = .interfaceDescriptor
  canonical : Headed i.headerNumbers
    ((if i.classCode = 0x03 ∨ i.classCode = 0x0b then (i.state.descriptors.find? 0x21).getD []
        else []) ++
      b.classSpecific.flatMap (·.returned) ++ b.endpoints.flatMap (·.own.returned)) b.own.canonical

/-- The queries of a configuration are those of its interfaces and, with what these came to behind
its header, its own.  The header counts the bytes that go out, modulo 65536. -/
structure ConfigurationBuild.Of (c : Configuration) (e : Configuration.Encoding) (speed : Speed)
    (b : ConfigurationBuild) : Prop where
  interfaces : List.Forall₂ (fun i ib => ib.Of i speed) c.interfaces b.interfaces
  stage : b.own.stage =
    if e = .own then .configurationDescriptor else .otherSpeedConfigurationDescriptor
  canonical : Headed
    (c.headerNumbers e ((9 + (b.interfaces.flatMap (·.own.returned)).length) % 65536))
    (b.interfaces.flatMap (·.own.returned)) b.own.canonical

/-- Class-specific descriptors are built by one query each. -/
theorem ClassSpecific.exists_queries (ds : List ClassSpecific) (stage : Stage) (type : UInt8)
    (history : List Callback) :
    ∃ qs, List.Forall₂ (fun d q => q.stage = stage ∧
        Headed [d.payload.length + 2, type.toNat] d.payload q.canonical) ds qs ∧
      Layout.Builds app history (ds.map fun d => .leaf stage (d.bytes type)) qs
        (qs.flatMap (·.returned)) := by
  obtain ⟨qs, hqs, hbuilt⟩ := Layout.builds_map (fun (d : ClassSpecific) history =>
    Layout.builds_leaf history stage (d.bytes type)) ds history
  rw [List.flatMap_singleton'] at hbuilt
  refine ⟨qs, hqs.imp fun d q hq => ⟨hq.1, ?_⟩, hbuilt⟩
  rw [hq.2]
  exact d.headed_bytes type

/-- An endpoint is built by queries of its own. -/
theorem Endpoint.exists_build (ep : Endpoint) (speed : Speed) (history : List Callback) :
    ∃ b : EndpointBuild, b.Of ep speed ∧
      Layout.Builds app history [ep.layout speed] b.queries b.own.returned := by
  obtain ⟨ds, hds, hbuilt⟩ := ClassSpecific.exists_queries ep.classSpecific
    .classSpecificEndpointDescriptor DescriptorType.classSpecificEndpoint history
  obtain ⟨q, hstage, hcanonical, hq⟩ := hbuilt.node .endpointDescriptor (ep.header speed ++ ·)
  exact ⟨⟨ds, q⟩, ⟨hds, hstage, _, ep.map_toNat_header speed, hcanonical⟩, hq⟩

/-- An interface is built by its own queries and those of its endpoints. -/
theorem Interface.exists_build (i : Interface) (speed : Speed) (history : List Callback) :
    ∃ b : InterfaceBuild, b.Of i speed ∧
      Layout.Builds app history [i.layout speed] b.queries b.own.returned := by
  obtain ⟨ds, hds, hbuilt⟩ := ClassSpecific.exists_queries i.classSpecific
    .classSpecificInterfaceDescriptor DescriptorType.classSpecificInterface history
  obtain ⟨ebs, hebs, hendpoints⟩ := Layout.builds_map
    (fun (ep : Endpoint) history => ep.exists_build speed history) i.endpoints
    (askedAfter history ds)
  obtain ⟨q, hstage, hcanonical, hq⟩ := (hbuilt.append hendpoints).node .interfaceDescriptor
    (i.header ++ i.legacyDescriptor ++ ·)
  refine ⟨⟨ds, ebs, q⟩, ⟨hds, hebs, hstage, _, i.map_toNat_header, hcanonical.trans ?_⟩, hq⟩
  rw [← legacyDescriptor_eq_ite, List.append_assoc, List.append_assoc]

/-- A configuration is built by its own query and those of its interfaces. -/
theorem Configuration.exists_build (c : Configuration) (e : Configuration.Encoding) (speed : Speed)
    (app : Application) (history : List Callback) :
    ∃ b : ConfigurationBuild, b.Of c e speed ∧
      Layout.Builds app history [c.plan e speed] b.queries b.own.returned := by
  obtain ⟨ibs, hibs, hbuilt⟩ := Layout.builds_map
    (fun (i : Interface) history => i.exists_build speed history) c.interfaces history
  obtain ⟨q, hstage, hcanonical, hq⟩ := hbuilt.node e.stage (c.frame e.type)
  have htold : e.stage =
      if e = .own then .configurationDescriptor else .otherSpeedConfigurationDescriptor := by
    cases e <;> rfl
  rw [plan_eq]
  exact ⟨⟨ibs, q⟩, ⟨hibs, hstage.trans htold, _, c.map_toNat_header e _, hcanonical⟩, hq⟩

/-- The stages of an endpoint, in the order in which they are asked for. -/
def Endpoint.stages (ep : Endpoint) : List Stage :=
  ep.classSpecific.map (fun _ => .classSpecificEndpointDescriptor) ++ [.endpointDescriptor]

/-- The stages of an interface, in the order in which they are asked for. -/
def Interface.stages (i : Interface) : List Stage :=
  i.classSpecific.map (fun _ => .classSpecificInterfaceDescriptor) ++
    i.endpoints.flatMap (·.stages) ++ [.interfaceDescriptor]

/-- The stages of a configuration, in the order in which they are asked for. -/
def Configuration.stages (c : Configuration) (e : Configuration.Encoding) : List Stage :=
  c.interfaces.flatMap (·.stages) ++
    [if e = .own then .configurationDescriptor else .otherSpeedConfigurationDescriptor]

/-- Lists that stand in a relation under which two functions agree have the same values. -/
theorem flatMap_eq_of_forall₂ {α β γ : Type} {R : α → β → Prop} {f : α → List γ} {g : β → List γ}
    (h : ∀ a b, R a b → g b = f a) {as : List α} {bs : List β} (hs : List.Forall₂ R as bs) :
    bs.flatMap g = as.flatMap f := by
  induction hs with
  | nil => rfl
  | cons hab _ ih => rw [List.flatMap_cons, List.flatMap_cons, h _ _ hab, ih]

/-- Queries of one stage have the stage, each of them. -/
theorem map_stage_of_forall₂ {stage : Stage} {P : ClassSpecific → Query → Prop}
    {ds : List ClassSpecific} {qs : List Query}
    (h : List.Forall₂ (fun d q => q.stage = stage ∧ P d q) ds qs) :
    qs.map (·.stage) = ds.map fun _ => stage := by
  induction h with
  | nil => rfl
  | cons hq _ ih => rw [List.map_cons, List.map_cons, hq.1, ih]

/-- The queries of an endpoint name its stages, in order. -/
theorem EndpointBuild.Of.stages {ep : Endpoint} {speed : Speed} {b : EndpointBuild}
    (h : b.Of ep speed) : b.queries.map (·.stage) = ep.stages := by
  rw [queries, List.map_append, map_stage_of_forall₂ h.classSpecific, Endpoint.stages, ← h.stage]
  rfl

/-- The queries of an interface name its stages, in order. -/
theorem InterfaceBuild.Of.stages {i : Interface} {speed : Speed} {b : InterfaceBuild}
    (h : b.Of i speed) : b.queries.map (·.stage) = i.stages := by
  have hendpoints : (b.endpoints.flatMap (·.queries)).map (·.stage) =
      i.endpoints.flatMap (·.stages) := by
    rw [List.map_flatMap]
    exact flatMap_eq_of_forall₂ (fun _ _ h => h.stages) h.endpoints
  rw [queries, List.map_append, List.map_append, map_stage_of_forall₂ h.classSpecific, hendpoints,
    Interface.stages, ← h.stage]
  rfl

/-- The queries of a configuration name its stages, in order. -/
theorem ConfigurationBuild.Of.stages {c : Configuration} {e : Configuration.Encoding}
    {speed : Speed} {b : ConfigurationBuild} (h : b.Of c e speed) :
    b.queries.map (·.stage) = c.stages e := by
  have hinterfaces : (b.interfaces.flatMap (·.queries)).map (·.stage) =
      c.interfaces.flatMap (·.stages) := by
    rw [List.map_flatMap]
    exact flatMap_eq_of_forall₂ (fun _ _ h => h.stages) h.interfaces
  rw [queries, List.map_append, hinterfaces, Configuration.stages, ← h.stage]
  rfl

/-- **Replacing descriptors composes along the tree.**  Whatever the application answers, either
descriptor of a configuration is built by one query for every node of the tree, in an order that
the tree alone determines: the class-specific descriptors of an interface, its endpoints, each
behind its class-specific descriptors, then the interface, and the configuration last.  The
canonical bytes of a node are its header in front of what the nodes below it came to; a query comes
to the application's replacement, or else to the canonical bytes; and what the configuration's query
comes to is the descriptor.  If nothing is replaced, these are the canonical bytes. -/
theorem Configuration.emit_plan (c : Configuration) (e : Configuration.Encoding) (speed : Speed)
    (app : Application) (history : List Callback) :
    ∃ b : ConfigurationBuild, b.Of c e speed ∧ b.queries.map (·.stage) = c.stages e ∧
      Conversation app history b.queries ∧
      (c.plan e speed).emit ⟨some app, history⟩ =
        (b.own.returned, ⟨some app, history ++ b.queries.map Query.callback⟩) ∧
      (app.ReplacesNothing → b.own.returned = (c.plan e speed).canonical) := by
  obtain ⟨b, hb, hbuilt⟩ := c.exists_build e speed app history
  refine ⟨b, hb, hb.stages, hbuilt.2, ?_, hbuilt.eq_canonical⟩
  rw [← Layout.emitAll_singleton]
  exact hbuilt.1

/-- An application that replaces what it is asked for after an odd number of callbacks: it puts this
number in front and leaves no more than four bytes. -/
def Application.meddling : Application where
  mutation history _ canonical :=
    if history.length % 2 = 1 then some (UInt8.ofNat history.length :: canonical.take 4) else none

/-- A case of `emit_plan`: the keyboard, with the class-specific descriptor of the endpoint and the
whole interface replaced.  The endpoint is built around what went out in place of the former, and
the configuration, with its total, around what went out in place of the latter. -/
theorem Configuration.emit_plan_keyboard :
    ∃ b : ConfigurationBuild, b.Of keyboard .own .full ∧
      Conversation .meddling [] b.queries ∧
      b.queries.map (fun q => (q.stage, q.canonical)) =
        [(.classSpecificInterfaceDescriptor, [3, 0x24, 0xaa]),
          (.classSpecificEndpointDescriptor, [4, 0x25, 0xbb, 0xcc]),
          (.endpointDescriptor, [7, 5, 0x81, 3, 8, 0, 10] ++ [1, 4, 0x25, 0xbb, 0xcc]),
          (.interfaceDescriptor, [9, 4, 0, 0, 1, 3, 1, 1, 0] ++
            [9, 0x21, 0x11, 0x01, 0, 1, 0x22, 0x3f, 0] ++ [3, 0x24, 0xaa] ++
            [7, 5, 0x81, 3, 8, 0, 10, 1, 4, 0x25, 0xbb, 0xcc]),
          (.configurationDescriptor, [9, 2, 14, 0, 1, 1, 0, 0xc0, 0x32] ++ [3, 9, 4, 0, 0])] ∧
      b.own.returned = [9, 2, 14, 0, 1, 1, 0, 0xc0, 0x32, 3, 9, 4, 0, 0] := by
  obtain ⟨b, hb, -, hconversation, hemit, -⟩ := keyboard.emit_plan .own .full .meddling []
  have hqueries : Callback.queries (b.queries.map Query.callback) =
      b.queries.map fun q => (q.stage, q.canonical) := by
    rw [Callback.queries, List.filterMap_map]
    exact congrFun List.filterMap_eq_map b.queries
  have hhistory : ((keyboard.plan .own .full).emit ⟨some .meddling, []⟩).2.history =
      b.queries.map Query.callback := by
    rw [hemit, List.nil_append]
  refine ⟨b, hb, hconversation, ?_, (congrArg Prod.fst hemit).symm.trans (by decide +kernel)⟩
  rw [← hqueries, ← hhistory]
  decide +kernel

end UsbGadget
