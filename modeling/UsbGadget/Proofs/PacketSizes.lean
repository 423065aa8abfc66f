/-
# What a descriptor says of the speed

The speed of a device is told by the largest packets of its endpoints and by
nothing else: bytes 4 and 5 of an endpoint's descriptor are 512 at high speed, and
the endpoint's own size at full speed.  So the descriptors at the two speeds have
one length, and they differ at most in these two bytes of each endpoint.  Where
they stand depends on the lengths of all that comes before, so the places are
carried along while the descriptor is built up from the endpoints
(`Bytes.DifferAt`, with `DifferAt.append` and `Layout.differAt_canonicalAll`):

| part | begins |
| --- | --- |
| interface | behind the header of the configuration and all interfaces before |
| endpoint | behind the header of its interface, the class descriptors, and all endpoints before |

The descriptor for the other speed is the one that the device would have at that
speed, with another type (`Model.speed_tells_packetSizes`).
-/

import UsbGadget.Proofs.LengthFields
import UsbGadget.Model

namespace UsbGadget

namespace Bytes

/-- Two strings of one length that differ at certain places at most. -/
structure DifferAt (places : Nat → Prop) (a b : Bytes) : Prop where
  length_eq : a.length = b.length
  place : ∀ k, a[k]? ≠ b[k]? → places k

variable {p q : Nat → Prop} {a b c d : Bytes}

/-- Equal bytes differ nowhere. -/
theorem differAt_refl (a : Bytes) : DifferAt p a a := ⟨rfl, fun _ h => absurd rfl h⟩

/-- Bytes that differ at some places only differ at any more places only. -/
theorem DifferAt.mono (h : DifferAt p a b) (hpq : ∀ k, p k → q k) : DifferAt q a b :=
  ⟨h.length_eq, fun k hk => hpq k (h.place k hk)⟩

/-- What follows differs at its own places, behind what comes first. -/
theorem DifferAt.append (h : DifferAt p a b) (h' : DifferAt q c d) :
    DifferAt (fun k => p k ∨ ∃ j, q j ∧ k = a.length + j) (a ++ c) (b ++ d) := by
  have hlength := h.length_eq
  refine ⟨by rw [List.length_append, List.length_append, hlength, h'.length_eq], fun k hk => ?_⟩
  rcases Nat.lt_or_ge k a.length with hlt | hge
  · rw [List.getElem?_append_left hlt, List.getElem?_append_left (hlength ▸ hlt)] at hk
    exact .inl (h.place k hk)
  · rw [List.getElem?_append_right hge, List.getElem?_append_right (hlength ▸ hge), ← hlength] at hk
    exact .inr ⟨k - a.length, h'.place _ hk, by omega⟩

/-- What is the same and comes first moves the places on. -/
theorem DifferAt.prepend (h : DifferAt q c d) (a : Bytes) :
    DifferAt (fun k => ∃ j, q j ∧ k = a.length + j) (a ++ c) (a ++ d) := by
  refine ((differAt_refl (p := fun _ => False) a).append h).mono ?_
  rintro k (hk | hk)
  · exact hk.elim
  · exact hk

/-- What is the same and follows leaves the places. -/
theorem DifferAt.append_same (h : DifferAt p a b) (c : Bytes) : DifferAt p (a ++ c) (b ++ c) := by
  refine (h.append (differAt_refl (p := fun _ => False) c)).mono ?_
  rintro k (hk | ⟨j, hj, -⟩)
  · exact hk
  · exact hj.elim

end Bytes

open Bytes

/-- Where each of several plans differs at its own places, all together differ at these, behind the
plans before. -/
theorem Layout.differAt_canonicalAll {α : Type} {f g : α → Layout} {places : α → Nat → Prop}
    (h : ∀ x, DifferAt (places x) (f x).canonical (g x).canonical) (xs : List α) :
    DifferAt (fun k => ∃ n x j, xs[n]? = some x ∧ places x j ∧
      k = (canonicalAll ((xs.take n).map f)).length + j)
      (canonicalAll (xs.map f)) (canonicalAll (xs.map g)) := by
  induction xs with
  | nil => exact differAt_refl _
  | cons x xs ih =>
    refine ((h x).append ih).mono ?_
    rintro k (hk | ⟨j, ⟨n, y, i, hy, hi, rfl⟩, rfl⟩)
    · exact ⟨0, x, k, rfl, hk, (Nat.zero_add k).symm⟩
    · refine ⟨n + 1, y, i, hy, hi, ?_⟩
      rw [List.take_succ_cons, List.map_cons, canonicalAll, List.length_append, Nat.add_assoc]

/-! ### Endpoints and interfaces -/

/-- The two bytes of the packet size. -/
def Endpoint.PacketPlace (k : Nat) : Prop := k = 4 ∨ k = 5

/-- The headers of an endpoint for the two speeds differ in the packet size only. -/
theorem Endpoint.differAt_header (ep : Endpoint) :
    DifferAt PacketPlace (ep.header .full) (ep.header .high) :=
  ⟨rfl, fun k hk =>
    match k with
    | 4 => .inl rfl
    | 5 => .inr rfl
    | 0 | 1 | 2 | 3 | 6 | _ + 7 => absurd rfl hk⟩

/-- The canonical bytes of an endpoint for the two speeds differ in the packet size only. -/
theorem Endpoint.differAt_canonical (ep : Endpoint) :
    DifferAt PacketPlace (ep.layout .full).canonical (ep.layout .high).canonical :=
  ep.differAt_header.append_same _

/-- Where the descriptor of an endpoint begins, its packet size stands four bytes on. -/
theorem Endpoint.wordAt?_of_drop {bytes rest : Bytes} {n : Nat} {ep : Endpoint} {speed : Speed}
    (h : bytes.drop n = ep.header speed ++ rest) :
    bytes.wordAt? (n + 4) = some (ep.packetSize speed).toNat := by
  have hbyte : ∀ k, bytes[n + k]? = (ep.header speed ++ rest)[k]? := by
    intro k
    rw [← List.getElem?_drop, h]
  rw [wordAt?, Nat.add_assoc, hbyte, hbyte]
  show some (word _ _).toNat = _
  rw [word_ofWord]

namespace Interface

/-- All of an interface that comes before its endpoints. -/
def front (i : Interface) : Bytes :=
  i.header ++ i.legacyDescriptor ++ Layout.canonicalAll (i.classSpecific.map (·.interfaceLayout))

/-- The canonical bytes of an interface are its own ones and then those of its endpoints. -/
theorem canonical_layout_eq (i : Interface) (speed : Speed) :
    (i.layout speed).canonical =
      i.front ++ Layout.canonicalAll (i.endpoints.map (·.layout speed)) := by
  rw [layout, Layout.canonical, Layout.canonicalAll_append, front, ← List.append_assoc]

/-- Where in an interface the endpoint at a position begins. -/
def endpointOffset (i : Interface) (speed : Speed) (position : Nat) : Nat :=
  i.front.length +
    (Layout.canonicalAll ((i.endpoints.take position).map (·.layout speed))).length

/-- The two bytes of the packet size of one of the endpoints. -/
def PacketPlace (i : Interface) (k : Nat) : Prop :=
  ∃ position ep j, i.endpoints[position]? = some ep ∧ Endpoint.PacketPlace j ∧
    k = i.endpointOffset .full position + j

/-- The canonical bytes of an interface for the two speeds differ in packet sizes only. -/
theorem differAt_canonical (i : Interface) :
    DifferAt i.PacketPlace (i.layout .full).canonical (i.layout .high).canonical := by
  have hendpoints := Layout.differAt_canonicalAll (fun ep : Endpoint => ep.differAt_canonical)
    i.endpoints
  rw [canonical_layout_eq, canonical_layout_eq]
  refine (hendpoints.prepend i.front).mono ?_
  rintro k ⟨_, ⟨position, ep, j, hep, hj, rfl⟩, rfl⟩
  exact ⟨position, ep, j, hep, hj, (Nat.add_assoc ..).symm⟩

/-- Endpoints begin at the same places at both speeds. -/
theorem endpointOffset_eq (i : Interface) (position : Nat) :
    i.endpointOffset .high position = i.endpointOffset .full position := by
  rw [endpointOffset, endpointOffset,
    (Layout.differAt_canonicalAll (fun ep : Endpoint => ep.differAt_canonical) _).length_eq]

end Interface

/-! ### Configurations -/

namespace Configuration

/-- Where the endpoint at a place begins. -/
def endpointOffset (c : Configuration) (speed : Speed) (slot : Slot) : Nat :=
  c.interfaceOffset speed slot.interface +
    (c.interfaces[slot.interface]?).elim 0 (·.endpointOffset speed slot.endpoint)

/-- The two strings have one length and differ at most in the packet sizes of the endpoints, which
are those that the endpoints have at full speed in the one, and 512 in the other. -/
structure DifferInPacketSizes (c : Configuration) (full high : Bytes) : Prop where
  length_eq : full.length = high.length
  place : ∀ k, full[k]? ≠ high[k]? → ∃ slot ep, c.endpointAt? slot = some ep ∧
    (k = c.endpointOffset .full slot + 4 ∨ k = c.endpointOffset .full slot + 5)
  endpoint : ∀ slot ep, c.endpointAt? slot = some ep →
    (full.drop (c.endpointOffset .full slot)).take 7 = ep.header .full ∧
      (high.drop (c.endpointOffset .full slot)).take 7 = ep.header .high
  size : ∀ slot ep, c.endpointAt? slot = some ep →
    full.wordAt? (c.endpointOffset .full slot + 4) = some ep.maxPacketSize.toNat ∧
      high.wordAt? (c.endpointOffset .full slot + 4) = some 512

/-- An interface begins at the same offset for both speeds. -/
theorem interfaceOffset_eq (c : Configuration) (position : Nat) :
    c.interfaceOffset .high position = c.interfaceOffset .full position := by
  rw [interfaceOffset, interfaceOffset,
    (Layout.differAt_canonicalAll (fun i : Interface => i.differAt_canonical) _).length_eq]

/-- Endpoints begin at the same places at both speeds. -/
theorem endpointOffset_eq (c : Configuration) (slot : Slot) :
    c.endpointOffset .high slot = c.endpointOffset .full slot := by
  rw [endpointOffset, endpointOffset, interfaceOffset_eq]
  cases c.interfaces[slot.interface]? with
  | none => rfl
  | some i => exact congrArg (c.interfaceOffset .full slot.interface + ·) (i.endpointOffset_eq _)

/-- At its offset stands the descriptor of the endpoint. -/
theorem drop_encoded_endpoint {c : Configuration} {slot : Slot} {ep : Endpoint}
    (h : c.endpointAt? slot = some ep) (e : Encoding) (speed : Speed) :
    ∃ rest, (c.encoded e speed).drop (c.endpointOffset speed slot) = ep.header speed ++ rest := by
  obtain ⟨i, hi, hep⟩ := Option.bind_eq_some_iff.1 h
  obtain ⟨rest, hrest⟩ := c.drop_encoded_layout e speed hi
  rw [endpointOffset, hi, Option.elim_some, ← List.drop_drop, hrest, i.canonical_layout_eq,
    Interface.endpointOffset, Layout.canonicalAll_split hep, ← List.drop_drop, List.append_assoc,
    List.drop_left, List.append_assoc, List.drop_left, Endpoint.layout, Layout.canonical]
  exact ⟨_, by rw [List.append_assoc, List.append_assoc]⟩

/-- The encodings of a configuration for the two speeds differ at offsets 4 and 5 of its endpoints
only. -/
theorem differAt_encoded (c : Configuration) (e : Encoding) :
    DifferAt (fun k => ∃ slot ep, c.endpointAt? slot = some ep ∧
      (k = c.endpointOffset .full slot + 4 ∨ k = c.endpointOffset .full slot + 5))
      (c.encoded e .full) (c.encoded e .high) := by
  have hinterfaces := Layout.differAt_canonicalAll (fun i : Interface => i.differAt_canonical)
    c.interfaces
  rw [encoded_eq, encoded_eq, frame_eq, frame_eq, hinterfaces.length_eq]
  refine (hinterfaces.prepend _).mono ?_
  -- A place is one of an endpoint in an interface, behind the start of the interface in the whole.
  rintro k ⟨_, ⟨position, i, _, hi, ⟨place, ep, j, hep, hj, rfl⟩, rfl⟩, rfl⟩
  have hslot : c.endpointAt? ⟨position, place⟩ = some ep := by
    rw [endpointAt?, hi, Option.bind_some, hep]
  have hoffset : c.endpointOffset .full ⟨position, place⟩ =
      c.interfaceOffset .full position + i.endpointOffset .full place := by
    rw [endpointOffset, hi, Option.elim_some]
  refine ⟨_, ep, hslot, ?_⟩
  rw [hoffset, interfaceOffset, length_header]
  rcases hj with rfl | rfl
  · left
    omega
  · right
    omega

/-- The encodings of a configuration for the two speeds differ in the packet sizes of its endpoints
only. -/
theorem differInPacketSizes (c : Configuration) (e : Encoding) :
    c.DifferInPacketSizes (c.encoded e .full) (c.encoded e .high) := by
  have hdiffer := c.differAt_encoded e
  have hstands : ∀ slot ep, c.endpointAt? slot = some ep → ∃ restFull restHigh,
      (c.encoded e .full).drop (c.endpointOffset .full slot) = ep.header .full ++ restFull ∧
        (c.encoded e .high).drop (c.endpointOffset .full slot) = ep.header .high ++ restHigh := by
    intro slot ep h
    obtain ⟨restFull, hfull⟩ := drop_encoded_endpoint h e .full
    obtain ⟨restHigh, hhigh⟩ := drop_encoded_endpoint h e .high
    exact ⟨restFull, restHigh, hfull, c.endpointOffset_eq slot ▸ hhigh⟩
  refine ⟨hdiffer.length_eq, hdiffer.place, fun slot ep h => ?_, fun slot ep h => ?_⟩
  · obtain ⟨_, _, hfull, hhigh⟩ := hstands slot ep h
    rw [hfull, hhigh]
    exact ⟨List.take_left' rfl, List.take_left' rfl⟩
  · obtain ⟨_, _, hfull, hhigh⟩ := hstands slot ep h
    exact ⟨Endpoint.wordAt?_of_drop hfull, Endpoint.wordAt?_of_drop hhigh⟩

end Configuration

/-! ### Models -/

namespace Model

/-- The descriptor that a model serves at a speed, with nothing replaced. -/
def servedAt? (m : Model) (speed : Speed) (type index : UInt8) : Option Bytes :=
  ({ m with speed := speed }.layout? type index).map fun l : Layout => (l.emit Mutator.disabled).1

/-- CONFIGURATION serves the encoding for the speed of the device. -/
theorem servedAt?_configuration (m : Model) (speed : Speed) (index : UInt8) :
    m.servedAt? speed DescriptorType.configuration index =
      (m.configurationOrFirst? index).map (·.encoded .own speed) := by
  show ((m.configurationOrFirst? index).map (·.layout speed)).map _ = _
  rw [Option.map_map]
  rfl

/-- OTHER_SPEED_CONFIGURATION serves the encoding for the other speed. -/
theorem servedAt?_otherSpeedConfiguration (m : Model) (speed : Speed) (index : UInt8) :
    m.servedAt? speed DescriptorType.otherSpeedConfiguration index =
      (m.configurationOrFirst? index).map (·.encoded .otherSpeed speed.other) := by
  show ((m.configurationOrFirst? index).map (·.otherSpeedLayout speed.other)).map _ = _
  rw [Option.map_map]
  rfl

/-- A model lacks a configuration to fall back to only when it has none at all. -/
theorem configurationOrFirst?_eq_none_iff (m : Model) (index : UInt8) :
    m.configurationOrFirst? index = none ↔ m.configurations = [] := by
  rw [configurationOrFirst?, Option.or_eq_none_iff, List.head?_eq_none_iff]
  exact and_iff_right_of_imp fun h => by rw [h]; rfl

/-- **A descriptor tells the speed by the packet sizes of endpoints and by nothing else.**  Whatever
the model and the index, the descriptor for the other speed is the one that the same model serves at
that speed, with the type 7 in place of 2.  A model with configurations serves one at both speeds:
the two have one length and differ at most in the packet sizes of the endpoints, which are 512 at
high speed and the endpoint's own at full speed. -/
theorem speed_tells_packetSizes (m : Model) (index : UInt8) :
    (∀ speed, m.servedAt? speed 0x07 index =
      (m.servedAt? speed.other 0x02 index).map (·.set 1 0x07)) ∧
    (∀ speed bytes, m.servedAt? speed 0x02 index = some bytes → bytes[1]? = some 0x02) ∧
    (m.configurations = [] ∧ (∀ speed, m.servedAt? speed 0x02 index = none) ∨
      ∃ c full high, m.configurationOrFirst? index = some c ∧
        m.servedAt? .full 0x02 index = some full ∧ m.servedAt? .high 0x02 index = some high ∧
        c.DifferInPacketSizes full high) := by
  have hserved : ∀ speed, m.servedAt? speed 0x02 index =
      (m.configurationOrFirst? index).map (·.encoded .own speed) :=
    fun speed => m.servedAt?_configuration speed index
  have hother : ∀ speed, m.servedAt? speed 0x07 index =
      (m.configurationOrFirst? index).map (·.encoded .otherSpeed speed.other) :=
    fun speed => m.servedAt?_otherSpeedConfiguration speed index
  refine ⟨fun speed => ?_, fun speed bytes h => ?_, ?_⟩
  · rw [hother, hserved, Option.map_map]
    congr 1
    funext c
    rw [Function.comp_apply, Configuration.encoded_eq, Configuration.encoded_eq]
    rfl
  · rw [hserved] at h
    obtain ⟨c, -, rfl⟩ := Option.map_eq_some_iff.1 h
    rw [Configuration.encoded_eq]
    rfl
  · cases hc : m.configurationOrFirst? index with
    | none =>
      left
      refine ⟨(m.configurationOrFirst?_eq_none_iff index).1 hc, fun speed => ?_⟩
      rw [hserved, hc, Option.map_none]
    | some c =>
      right
      refine ⟨c, _, _, rfl, ?_, ?_, c.differInPacketSizes .own⟩
      · rw [hserved, hc, Option.map_some]
      · rw [hserved, hc, Option.map_some]

end Model
end UsbGadget
