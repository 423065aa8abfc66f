/-
# A host reads an object store back

Behind the five bytes of its header, a store holds one descriptor for each
capability.  A host cuts them apart by their first bytes (`DescriptorStream.walk`)
and takes the type and the payload of each (`DescriptorStream.capability?`).

The payload of a capability may have any length, and what does not fit behind a
one-byte length is cut.  A raw capability is cut twice, once by itself and once
like all others, but the second cut finds nothing left to do
(`Capability.take_payload`).  So every descriptor starts with its own length
(`Capability.framed_bytes`), no descriptor has more than 255 bytes, and 255 of them
with the header have at most 65030: the length of the whole fits its two bytes, and
the walk finds every capability again (`ObjectStore.capabilities_read_back`).
-/

import Mathlib.Data.List.Forall2
import UsbGadget.Proofs.DescriptorStream
import UsbGadget.Proofs.LengthFields

namespace UsbGadget

open DescriptorStream

/-- Reading one after the other succeeds if each reading does. -/
theorem mapM_eq_some_of_forall₂ {α β : Type} {read : α → Option β} {as : List α} {bs : List β}
    (h : List.Forall₂ (fun a b => read a = some b) as bs) : as.mapM read = some bs := by
  induction h with
  | nil => rfl
  | cons hab _ ih =>
    rw [List.mapM_cons, hab, ih]
    rfl

namespace DescriptorStream

/-- A capability as a host reads it. -/
structure CapabilityRecord where
  type : UInt8
  payload : Bytes
  deriving DecidableEq, Repr

/-- Reads a descriptor, if it is one of a capability. -/
def capability? : Bytes → Option CapabilityRecord
  | _ :: kind :: type :: payload =>
    if kind = DescriptorType.deviceCapability then some ⟨type, payload⟩ else none
  | _ => none

/-- Reads what stands behind the header of a store, if it is capabilities and nothing else. -/
def capabilities? (store : Bytes) : Option (List CapabilityRecord) :=
  (walk (store.drop 5)).bind (·.mapM capability?)

end DescriptorStream

namespace Capability

/-- The bytes of a capability descriptor, with nothing replaced. -/
def encoded (c : Capability) : Bytes := (c.layout.emit Mutator.disabled).1

/-- The encoding of a capability that no one replaces is its bytes. -/
theorem encoded_eq (c : Capability) : c.encoded = c.bytes := by
  rw [encoded, Layout.emit_disabled]
  rfl

/-- What a capability is made with, before any of it is cut. -/
def contents : Capability → Bytes
  | usb20Extension attributes => Bytes.ofLong attributes
  | containerId uuid => 0 :: uuid.toList
  | billboard b => b.payload
  | raw _ payload => payload
  | custom _ payload => payload

/-- Where a raw capability has cut its payload, nothing is left to cut. -/
theorem take_payload (c : Capability) :
    c.payload.take maxPayload = c.contents.take maxPayload := by
  cases c with
  | raw type given =>
    show (given.take maxPayload).take maxPayload = given.take maxPayload
    rw [List.take_take, Nat.min_self]
  | usb20Extension | containerId | billboard | custom => rfl

/-- A capability as a host finds it. -/
def record (c : Capability) : CapabilityRecord := ⟨c.type, c.contents.take 252⟩

/-- The first byte of a capability is its length. -/
theorem framed_bytes (c : Capability) : Framed c.bytes := by
  have hlength : c.bytes.length = (c.payload.take maxPayload).length + 3 := rfl
  have hle := c.length_bytes_le
  refine ⟨by omega, ?_⟩
  show some (Bytes.countByte ((c.payload.take maxPayload).length + 3)).toNat = some c.bytes.length
  rw [toNat_countByte (by omega), hlength]

/-- The bytes of a capability read back as its record. -/
theorem capability?_bytes (c : Capability) : capability? c.bytes = some c.record := by
  show (if DescriptorType.deviceCapability = DescriptorType.deviceCapability then
    some (CapabilityRecord.mk c.type (c.payload.take maxPayload)) else none) = _
  rw [if_pos rfl, take_payload]
  rfl

end Capability

namespace ObjectStore

/-- A store begins with its length byte and its type. -/
theorem take_encoded (s : ObjectStore) : s.encoded.take 2 = [5, 0x0f] := by
  rw [encoded_eq]
  rfl

/-- After the five bytes of its header, a store is the bytes of its capabilities. -/
theorem drop_encoded (s : ObjectStore) :
    s.encoded.drop 5 = (s.capabilities.map (·.bytes)).flatten := by
  rw [encoded_eq, ← List.flatMap_def]
  rfl

/-- The walk over a store meets its capabilities, in order. -/
theorem walk_encoded (s : ObjectStore) :
    walk (s.encoded.drop 5) = some (s.capabilities.map (·.bytes)) := by
  have hframed : ∀ d ∈ s.capabilities.map (·.bytes), Framed d := by
    intro d hd
    obtain ⟨c, -, rfl⟩ := List.mem_map.1 hd
    exact c.framed_bytes
  rw [drop_encoded, walk_flatten hframed]

/-- A store reads back as the records of its capabilities. -/
theorem capabilities?_encoded (s : ObjectStore) :
    capabilities? s.encoded = some (s.capabilities.map (·.record)) := by
  have hread : List.Forall₂ (fun d r => capability? d = some r)
      (s.capabilities.map (·.bytes)) (s.capabilities.map (·.record)) := by
    rw [List.forall₂_map_left_iff, List.forall₂_map_right_iff, List.forall₂_same]
    exact fun c _ => c.capability?_bytes
  rw [capabilities?, walk_encoded, Option.bind_some, mapM_eq_some_of_forall₂ hread]

/-- **A host finds all capabilities of a store again.**  A store of at most 255 capabilities, of any
kinds and with payloads of any length, has at most 65030 bytes, and its header says how many they
are and how many capabilities follow.  With nothing replaced, the walk cuts what follows into
exactly the descriptors of the capabilities, in order and with nothing left over, and each is read
as the type of its capability and the first 252 bytes of its payload. -/
theorem capabilities_read_back (s : ObjectStore) (hcount : s.capabilities.length ≤ 255) :
    s.encoded.length ≤ 65030 ∧
      s.encoded.take 2 = [5, 0x0f] ∧
      s.encoded.wordAt? 2 = some s.encoded.length ∧
      s.encoded.byteAt? 4 = some s.capabilities.length ∧
      walk (s.encoded.drop 5) = some (s.capabilities.map (·.encoded)) ∧
      capabilities? s.encoded =
        some (s.capabilities.map fun c => ⟨c.type, c.contents.take 252⟩) := by
  have hexact := s.exact_iff.2 hcount
  have hlength := s.length_encoded_le
  refine ⟨by omega, s.take_encoded, hexact.total, hexact.capabilities, ?_, s.capabilities?_encoded⟩
  rw [walk_encoded]
  exact congrArg some (List.map_congr_left fun c _ => c.encoded_eq.symm)

/-- A store with a raw capability that is too long and a custom one behind it. -/
def overlong : ObjectStore where
  capabilities :=
    [.usb20Extension Capability.linkPowerManagement, .raw 0x0a (List.replicate 300 0xaa),
      .custom 0x0b (List.replicate 253 0xbb ++ [0xcc])]

/-- The hypothesis of `capabilities_read_back` is satisfiable: all three are found again, the first
one whole. -/
theorem capabilities_read_back_overlong :
    overlong.capabilities.length ≤ 255 ∧
      capabilities? overlong.encoded = some
        [⟨0x02, [0x02, 0, 0, 0]⟩, ⟨0x0a, List.replicate 252 0xaa⟩,
          ⟨0x0b, List.replicate 252 0xbb⟩] :=
  ⟨by decide, (overlong.capabilities_read_back (by decide)).2.2.2.2.2.trans (by decide +kernel)⟩

end ObjectStore
end UsbGadget
