/-
# Fields that count

A header says how many bytes the whole has and how many parts follow:

| descriptor | offset | bytes | counts |
| --- | ---: | ---: | --- |
| configuration | 2 | 2 | the bytes of the whole |
| configuration | 4 | 1 | the interfaces |
| interface | 4 | 1 | the endpoints |
| object store | 2 | 2 | the bytes of the whole |
| object store | 4 | 1 | the capabilities |

A tree may have any number of parts, and a field that is too small for a number
wraps: a byte holds it modulo 256, two bytes modulo 65536 (`wordAt?_encoded`,
`byteAt?_encoded`, `byteAt?_encoded_interface`).  So the fields are exact for
those trees alone that fit (`exact_iff_fits`).  A store whose capabilities fit
into their byte fits into its two bytes as well, because no capability has more
than 255 bytes (`ObjectStore.length_encoded_le`).
-/

import UsbGadget.ObjectStore
import UsbGadget.Proofs.Encoding

namespace UsbGadget

namespace Bytes

/-- The number in the byte at an offset. -/
def byteAt? (bytes : Bytes) (offset : Nat) : Option Nat := (bytes[offset]?).map UInt8.toNat

/-- The number in the two bytes at an offset, low byte first. -/
def wordAt? (bytes : Bytes) (offset : Nat) : Option Nat :=
  (bytes[offset]?).bind fun low => (bytes[offset + 1]?).map fun high => (word low high).toNat

/-- A byte of what is left after some bytes is the byte that much further on. -/
theorem byteAt?_drop (bytes : Bytes) (start offset : Nat) :
    byteAt? (bytes.drop start) offset = byteAt? bytes (start + offset) := by
  rw [byteAt?, List.getElem?_drop, byteAt?]

/-- A count byte holds the count modulo 256. -/
theorem toNat_countByte_eq_mod (n : Nat) : (countByte n).toNat = n % 256 := UInt8.toNat_ofNat'

/-- The two bytes of a total, behind length and type, hold the total modulo 65536. -/
theorem wordAt?_total (length type : UInt8) (n : Nat) (rest : Bytes) :
    wordAt? ([length, type] ++ ofWord (totalWord n) ++ rest) 2 = some (n % 65536) := by
  show some (word (totalWord n).toUInt8 (totalWord n >>> 8).toUInt8).toNat = _
  rw [word_ofWord, totalWord, UInt16.toNat_ofNat']

end Bytes

/-! ### Configurations -/

namespace Configuration

/-- The bytes of one of the two descriptors of a configuration, with nothing replaced. -/
def encoded (c : Configuration) (e : Encoding) (speed : Speed) : Bytes :=
  ((c.plan e speed).emit Mutator.disabled).1

/-- Where the descriptor of the interface at a position begins: behind the header and all interfaces
before. -/
def interfaceOffset (c : Configuration) (speed : Speed) (position : Nat) : Nat :=
  9 + (Layout.canonicalAll ((c.interfaces.take position).map (·.layout speed))).length

/-- The length and all counts in the descriptor are what they claim to be. -/
structure Exact (c : Configuration) (e : Encoding) (speed : Speed) : Prop where
  total : (c.encoded e speed).wordAt? 2 = some (c.encoded e speed).length
  interfaces : (c.encoded e speed).byteAt? 4 = some c.interfaces.length
  endpoints : ∀ position i, c.interfaces[position]? = some i →
    (c.encoded e speed).byteAt? (c.interfaceOffset speed position + 4) = some i.endpoints.length

/-- The encoding of a configuration is the canonical bytes of its interfaces in its frame. -/
theorem encoded_eq (c : Configuration) (e : Encoding) (speed : Speed) :
    c.encoded e speed =
      c.frame e.type (Layout.canonicalAll (c.interfaces.map (·.layout speed))) := by
  rw [encoded, Layout.emit_disabled, plan_eq, Layout.canonical]

/-- Offset 2 of the encoding holds its length modulo 65536. -/
theorem wordAt?_encoded (c : Configuration) (e : Encoding) (speed : Speed) :
    (c.encoded e speed).wordAt? 2 = some ((c.encoded e speed).length % 65536) := by
  rw [encoded_eq, frame_eq, header, List.append_assoc, Bytes.wordAt?_total]
  congr 2
  simp only [List.length_append, Bytes.length_ofWord, List.length_cons, List.length_nil]
  omega

/-- Offset 4 of the encoding holds the number of interfaces modulo 256. -/
theorem byteAt?_encoded (c : Configuration) (e : Encoding) (speed : Speed) :
    (c.encoded e speed).byteAt? 4 = some (c.interfaces.length % 256) := by
  rw [encoded_eq, ← Bytes.toNat_countByte_eq_mod]
  rfl

/-- At its offset stands the descriptor of the interface, with all that belongs to it. -/
theorem drop_encoded_layout (c : Configuration) (e : Encoding) (speed : Speed) {position : Nat}
    {i : Interface} (h : c.interfaces[position]? = some i) :
    ∃ rest, (c.encoded e speed).drop (c.interfaceOffset speed position) =
      (i.layout speed).canonical ++ rest := by
  rw [encoded_eq, frame_eq, interfaceOffset, ← List.drop_drop,
    List.drop_left' (c.length_header e _), Layout.canonicalAll_split h, List.drop_left]
  exact ⟨_, rfl⟩

/-- At its offset stands the header of the interface. -/
theorem drop_encoded (c : Configuration) (e : Encoding) (speed : Speed) {position : Nat}
    {i : Interface} (h : c.interfaces[position]? = some i) :
    ∃ rest, (c.encoded e speed).drop (c.interfaceOffset speed position) = i.header ++ rest := by
  obtain ⟨rest, hrest⟩ := c.drop_encoded_layout e speed h
  rw [hrest, Interface.layout, Layout.canonical]
  exact ⟨_, by rw [List.append_assoc, List.append_assoc]⟩

/-- Offset 4 of an interface holds the number of its endpoints modulo 256. -/
theorem byteAt?_encoded_interface (c : Configuration) (e : Encoding) (speed : Speed)
    {position : Nat} {i : Interface} (h : c.interfaces[position]? = some i) :
    (c.encoded e speed).byteAt? (c.interfaceOffset speed position + 4) =
      some (i.endpoints.length % 256) := by
  obtain ⟨rest, hrest⟩ := c.drop_encoded e speed h
  rw [← Bytes.byteAt?_drop, hrest, ← Bytes.toNat_countByte_eq_mod]
  rfl

/-- The fields of a configuration are exact if the whole and its parts fit. -/
theorem exact_iff (c : Configuration) (e : Encoding) (speed : Speed) :
    c.Exact e speed ↔ (c.encoded e speed).length ≤ 65535 ∧ c.interfaces.length ≤ 255 ∧
      ∀ i ∈ c.interfaces, i.endpoints.length ≤ 255 := by
  constructor
  · intro h
    have htotal := Option.some.inj ((c.wordAt?_encoded e speed).symm.trans h.total)
    have hinterfaces := Option.some.inj ((c.byteAt?_encoded e speed).symm.trans h.interfaces)
    refine ⟨by omega, by omega, ?_⟩
    intro i hi
    obtain ⟨position, hposition⟩ := List.mem_iff_getElem?.1 hi
    have hencoded := c.byteAt?_encoded_interface e speed hposition
    have hendpoints := Option.some.inj (hencoded.symm.trans (h.endpoints position i hposition))
    omega
  · rintro ⟨htotal, hinterfaces, hendpoints⟩
    refine ⟨?_, ?_, ?_⟩
    · rw [wordAt?_encoded, Nat.mod_eq_of_lt (by omega)]
    · rw [byteAt?_encoded, Nat.mod_eq_of_lt (by omega)]
    · intro position i hposition
      have hi := hendpoints i (List.mem_of_getElem? hposition)
      rw [c.byteAt?_encoded_interface e speed hposition, Nat.mod_eq_of_lt (by omega)]

end Configuration

/-! ### Object stores -/

/-- No capability has more bytes than its length byte can say. -/
theorem Capability.length_bytes_le (c : Capability) : c.bytes.length ≤ 255 := by
  have hcut : (c.payload.take maxPayload).length ≤ maxPayload := List.length_take_le ..
  simp only [bytes, List.length_append, List.length_cons, List.length_nil]
  unfold maxPayload at *
  omega

namespace ObjectStore

/-- The bytes of a store, with nothing replaced. -/
def encoded (s : ObjectStore) : Bytes := (s.layout.emit Mutator.disabled).1

/-- The length and the count of a store are what they claim to be. -/
structure Exact (s : ObjectStore) : Prop where
  total : s.encoded.wordAt? 2 = some s.encoded.length
  capabilities : s.encoded.byteAt? 4 = some s.capabilities.length

/-- The encoding of a store is the bytes of its capabilities in its frame. -/
theorem encoded_eq (s : ObjectStore) :
    s.encoded = frame s.capabilities.length (s.capabilities.flatMap (·.bytes)) := by
  rw [encoded, Layout.emit_disabled, layout, Layout.canonical, Layout.canonicalAll_eq_flatMap,
    List.flatMap_map]
  rfl

/-- Offset 2 of the encoding of a store holds its length modulo 65536. -/
theorem wordAt?_encoded (s : ObjectStore) :
    s.encoded.wordAt? 2 = some (s.encoded.length % 65536) := by
  rw [encoded_eq, frame, List.append_assoc, Bytes.wordAt?_total]
  congr 2
  simp only [List.length_append, Bytes.length_ofWord, List.length_cons, List.length_nil]
  omega

/-- Offset 4 of the encoding of a store holds the number of capabilities modulo 256. -/
theorem byteAt?_encoded (s : ObjectStore) :
    s.encoded.byteAt? 4 = some (s.capabilities.length % 256) := by
  rw [encoded_eq, ← Bytes.toNat_countByte_eq_mod]
  rfl

/-- The encoding of a store has 5 bytes and at most 255 for each capability. -/
theorem length_encoded_le (s : ObjectStore) :
    s.encoded.length ≤ 5 + 255 * s.capabilities.length := by
  have hbody : ∀ cs : List Capability, (cs.flatMap (·.bytes)).length ≤ 255 * cs.length := by
    intro cs
    induction cs with
    | nil => exact Nat.le_refl _
    | cons c cs ih =>
      have hc := c.length_bytes_le
      rw [List.flatMap_cons, List.length_append, List.length_cons]
      omega
  have hcapabilities := hbody s.capabilities
  rw [encoded_eq, frame]
  simp only [List.length_append, Bytes.length_ofWord, List.length_cons, List.length_nil]
  omega

/-- The fields of a store are exact if its capabilities fit into their byte. -/
theorem exact_iff (s : ObjectStore) : s.Exact ↔ s.capabilities.length ≤ 255 := by
  constructor
  · intro h
    have hcapabilities := Option.some.inj (s.byteAt?_encoded.symm.trans h.capabilities)
    omega
  · intro h
    have hlength := s.length_encoded_le
    refine ⟨?_, ?_⟩
    · rw [wordAt?_encoded, Nat.mod_eq_of_lt (by omega)]
    · rw [byteAt?_encoded, Nat.mod_eq_of_lt (by omega)]

end ObjectStore

/-- **Length and count fields are exact for the trees that fit, and for no others.** -/
theorem exact_iff_fits (c : Configuration) (e : Configuration.Encoding) (speed : Speed)
    (s : ObjectStore) :
    (c.Exact e speed ↔ (c.encoded e speed).length ≤ 65535 ∧ c.interfaces.length ≤ 255 ∧
      ∀ i ∈ c.interfaces, i.endpoints.length ≤ 255) ∧
    (s.Exact ↔ s.capabilities.length ≤ 255) :=
  ⟨c.exact_iff e speed, s.exact_iff⟩

/-- A configuration with one interface more than a byte counts. -/
def Configuration.crowded : Configuration where
  interfaces := List.replicate 256 { number := 0, classCode := 0xff }

/-- A store with one capability more than a byte counts. -/
def ObjectStore.crowded : ObjectStore where
  capabilities := List.replicate 256 (.usb20Extension 0)

/-- Not all trees fit: with 256 parts, the count is 0. -/
theorem not_exact_crowded :
    ¬ Configuration.crowded.Exact .own .full ∧ ¬ ObjectStore.crowded.Exact := by
  constructor
  · intro h
    have hlength : Configuration.crowded.interfaces.length = 256 := List.length_replicate
    have hcount := h.interfaces
    rw [Configuration.byteAt?_encoded, hlength] at hcount
    cases hcount
  · intro h
    have hlength : ObjectStore.crowded.capabilities.length = 256 := List.length_replicate
    have hcount := h.capabilities
    rw [ObjectStore.byteAt?_encoded, hlength] at hcount
    cases hcount

end UsbGadget
