/-
# A host reads a configuration back

A host cuts the bytes of a configuration into descriptors by their first bytes
(`DescriptorStream.walk`) and reads each by its type (`Item.read`):

| type | length | read as |
| --- | ---: | --- |
| `02`, `07` | 9 | configuration |
| `04` | 9 | interface |
| `05` | 7 | endpoint |
| `24`, `25` | any | class-specific, with its payload |
| all others | any | bytes |

A list of descriptors that each start with their length is found again by the
walk (`walk_flatten`).  All that a configuration emits is of that kind, as soon
as its class descriptors are, so the walk gives the tree in order, and no field
of it is lost (`decode_plan`).
-/

import Mathlib.Tactic.Set
import Mathlib.Tactic.SplitIfs
import UsbGadget.Descriptor.Walk
import UsbGadget.Proofs.Encoding

namespace UsbGadget

namespace DescriptorStream

/-- A descriptor that starts with its own length, which is at least two. -/
def Framed (d : Bytes) : Prop := 2 ≤ d.length ∧ d.head?.map UInt8.toNat = some d.length

instance (d : Bytes) : Decidable (Framed d) := inferInstanceAs (Decidable (_ ∧ _))

/-- The walk takes a framed descriptor off the front. -/
theorem walk_append {d : Bytes} (h : Framed d) (rest : Bytes) :
    walk (d ++ rest) = (walk rest).map (d :: ·) := by
  obtain ⟨hlong, hhead⟩ := h
  cases d with
  | nil => exact absurd hlong (by simp)
  | cons n body =>
    have hn : n.toNat = body.length + 1 := Option.some.inj hhead
    have hbody : n.toNat - 1 = body.length := by omega
    have hfits : ¬(n.toNat < 2 ∨ (body ++ rest).length + 1 < n.toNat) := by
      rw [List.length_cons] at hlong
      rw [List.length_append]
      omega
    rw [List.cons_append, walk, if_neg hfits, hbody, List.drop_left, List.take_left]

/-- **Framed descriptors are found again by the walk.** -/
theorem walk_flatten {ds : List Bytes} (h : ∀ d ∈ ds, Framed d) : walk ds.flatten = some ds := by
  induction ds with
  | nil => rw [List.flatten_nil, walk]
  | cons d ds ih =>
    have hrest := ih fun x hx => h x (List.mem_cons_of_mem _ hx)
    rw [List.flatten_cons, walk_append (h d List.mem_cons_self), hrest]
    rfl

/-- A configuration as a host reads it. -/
structure ConfigurationRecord where
  type : UInt8
  totalLength : Nat
  interfaceCount : Nat
  value : UInt8
  stringIndex : UInt8
  attributes : UInt8
  maxPower : UInt8
  deriving DecidableEq, Repr

/-- An interface as a host reads it. -/
structure InterfaceRecord where
  number : UInt8
  alternate : UInt8
  endpointCount : Nat
  classCode : UInt8
  subclassCode : UInt8
  protocolCode : UInt8
  stringIndex : UInt8
  deriving DecidableEq, Repr

/-- An endpoint as a host reads it, with its attributes both as they stand and taken apart. -/
structure EndpointRecord where
  number : UInt8
  direction : Direction
  attributes : UInt8
  transferType : TransferType
  synchronisation : Synchronisation
  usage : Usage
  maxPacketSize : UInt16
  interval : UInt8
  deriving DecidableEq, Repr

/-- A descriptor as a host reads it. -/
inductive Item where
  | configuration (record : ConfigurationRecord)
  | interface (record : InterfaceRecord)
  | endpoint (record : EndpointRecord)
  | classSpecific (type : UInt8) (payload : Bytes)
  | other (bytes : Bytes)
  deriving DecidableEq, Repr

/-- Reads the fields behind length and type of a configuration. -/
def configuration? (type : UInt8) : Bytes → Option Item
  | [t₀, t₁, count, value, stringIndex, attributes, maxPower] =>
    some <| .configuration
      ⟨type, (Bytes.word t₀ t₁).toNat, count.toNat, value, stringIndex, attributes, maxPower⟩
  | _ => none

/-- Reads the fields behind length and type of an interface. -/
def interface? : Bytes → Option Item
  | [number, alternate, count, classCode, subclassCode, protocolCode, stringIndex] =>
    some <| .interface
      ⟨number, alternate, count.toNat, classCode, subclassCode, protocolCode, stringIndex⟩
  | _ => none

/-- The transfer type with the number in bits 0 and 1 of the attributes. -/
def transferTypeOf (attributes : UInt8) : TransferType :=
  match attributes.toNat % 4 with
  | 0 => .control
  | 1 => .isochronous
  | 2 => .bulk
  | _ => .interrupt

/-- The synchronisation with the number in bits 2 and 3 of the attributes. -/
def synchronisationOf (attributes : UInt8) : Synchronisation :=
  match attributes.toNat / 4 % 4 with
  | 0 => .unsynchronised
  | 1 => .asynchronous
  | 2 => .adaptive
  | _ => .synchronous

/-- The usage with the number in bits 4 and 5 of the attributes, of which 3 has none. -/
def usageOf? (attributes : UInt8) : Option Usage :=
  match attributes.toNat / 16 % 4 with
  | 0 => some .data
  | 1 => some .feedback
  | 2 => some .implicitFeedback
  | _ => none

/-- Reads the fields behind length and type of an endpoint. -/
def endpoint? : Bytes → Option Item
  | [address, attributes, p₀, p₁, interval] =>
    (usageOf? attributes).map fun usage => .endpoint
      ⟨address &&& 0x0f, if address &&& 0x80 = 0 then .hostToDevice else .deviceToHost, attributes,
        transferTypeOf attributes, synchronisationOf attributes, usage, Bytes.word p₀ p₁, interval⟩
  | _ => none

/-- Reads the fields behind length and type of a descriptor, if it has a form that the type asks
for. -/
def fields? (type : UInt8) (fields : Bytes) : Option Item :=
  if type = DescriptorType.configuration ∨ type = DescriptorType.otherSpeedConfiguration then
    configuration? type fields
  else if type = DescriptorType.interface then interface? fields
  else if type = DescriptorType.endpoint then endpoint? fields
  else if type = DescriptorType.classSpecificInterface ∨
      type = DescriptorType.classSpecificEndpoint then some (.classSpecific type fields)
  else none

/-- Reads a descriptor by its type. -/
def Item.read : Bytes → Item
  | length :: type :: fields => (fields? type fields).getD (.other (length :: type :: fields))
  | bytes => .other bytes

/-- What a host reads out of a stream, if the stream holds descriptors and nothing else. -/
def decode (bytes : Bytes) : Option (List Item) := (walk bytes).map (·.map Item.read)

end DescriptorStream

open DescriptorStream

/-- A count of at most 255 is exact in its byte. -/
theorem toNat_countByte {n : Nat} (h : n ≤ 255) : (Bytes.countByte n).toNat = n :=
  UInt8.toNat_ofNat_of_lt' (Nat.lt_succ_of_le h)

/-- A total of at most 65535 is exact in its word. -/
theorem toNat_totalWord {n : Nat} (h : n ≤ 65535) : (Bytes.totalWord n).toNat = n :=
  UInt16.toNat_ofNat_of_lt' (Nat.lt_succ_of_le h)

namespace ClassSpecific

/-- The first byte of a class-specific descriptor is its length. -/
theorem framed_bytes (d : ClassSpecific) (type : UInt8) : Framed (d.bytes type) := by
  have hfits := d.fits
  have hlength : (d.bytes type).length = d.payload.length + 2 := rfl
  refine ⟨by omega, ?_⟩
  show some (Bytes.countByte (d.payload.length + 2)).toNat = some (d.bytes type).length
  rw [toNat_countByte (by omega), hlength]

/-- The item of a class-specific descriptor. -/
def item (d : ClassSpecific) (type : UInt8) : Item := .classSpecific type d.payload

/-- A class-specific descriptor reads back as its subtype and payload. -/
theorem read_bytes (d : ClassSpecific) {type : UInt8}
    (h : type = DescriptorType.classSpecificInterface ∨
      type = DescriptorType.classSpecificEndpoint) :
    Item.read (d.bytes type) = d.item type := by
  rcases h with rfl | rfl <;> rfl

end ClassSpecific

namespace Endpoint

/-- The number and the direction are found again in the address. -/
theorem address_and (ep : Endpoint) :
    ep.address &&& 0x0f = ep.number ∧ (ep.address &&& 0x80 = 0 ↔ ep.direction = .hostToDevice) := by
  have hnumber : ∀ n < 16, ∀ d : Direction,
      (UInt8.ofNat n ||| d.addressBit) &&& 0x0f = UInt8.ofNat n ∧
        ((UInt8.ofNat n ||| d.addressBit) &&& 0x80 = 0 ↔ d = .hostToDevice) := by
    intro n hn d
    cases d <;> revert n <;> decide
  have h := hnumber ep.number.toNat (UInt8.lt_iff_toNat_lt.1 ep.number_lt) ep.direction
  rwa [UInt8.ofNat_toNat] at h

/-- Transfer type, synchronisation and usage are found again in the attributes. -/
theorem attributes_eq (ep : Endpoint) :
    transferTypeOf ep.attributes = ep.transferType ∧
      synchronisationOf ep.attributes = ep.synchronisation ∧
      usageOf? ep.attributes = some ep.usage := by
  rw [attributes]
  cases ep.transferType <;> cases ep.synchronisation <;> cases ep.usage <;> exact ⟨rfl, rfl, rfl⟩

/-- An endpoint as a host finds it. -/
def record (ep : Endpoint) (speed : Speed) : EndpointRecord :=
  ⟨ep.number, ep.direction, ep.attributes, ep.transferType, ep.synchronisation, ep.usage,
    ep.packetSize speed, ep.interval⟩

/-- What a host finds of an endpoint. -/
def items (ep : Endpoint) (speed : Speed) : List Item :=
  .endpoint (ep.record speed) :: ep.classSpecific.map (·.item DescriptorType.classSpecificEndpoint)

/-- The header of an endpoint reads back as the record of the endpoint. -/
theorem read_header (ep : Endpoint) (speed : Speed) :
    Item.read (ep.header speed) = .endpoint (ep.record speed) := by
  obtain ⟨hnumber, hdirection⟩ := ep.address_and
  have hway : (if ep.address &&& 0x80 = 0 then Direction.hostToDevice else .deviceToHost) =
      ep.direction := by
    split_ifs with h
    · exact (hdirection.1 h).symm
    · cases hd : ep.direction with
      | hostToDevice => exact absurd (hdirection.2 hd) h
      | deviceToHost => rfl
  obtain ⟨htransfer, hsynchronisation, husage⟩ := ep.attributes_eq
  have hread : endpoint? ((ep.header speed).drop 2) = some (.endpoint (ep.record speed)) := by
    show Option.map _ (usageOf? ep.attributes) = _
    rw [husage, Option.map_some, htransfer, hsynchronisation, hnumber, hway, Bytes.word_ofWord,
      record]
  show (endpoint? ((ep.header speed).drop 2)).getD (.other (ep.header speed)) = _
  rw [hread, Option.getD_some]

/-- Every descriptor of an endpoint carries its own length. -/
theorem framed_descriptors (ep : Endpoint) (speed : Speed) :
    ∀ d ∈ ep.descriptors speed, Framed d := by
  intro d hd
  rcases List.mem_cons.1 hd with rfl | hd
  · exact ⟨by show 2 ≤ 7; omega, rfl⟩
  · obtain ⟨cs, -, rfl⟩ := List.mem_map.1 hd
    exact cs.framed_bytes _

/-- The descriptors of an endpoint read back as its items. -/
theorem read_descriptors (ep : Endpoint) (speed : Speed) :
    (ep.descriptors speed).map Item.read = ep.items speed := by
  rw [descriptors, List.map_cons, List.map_map, read_header, items]
  exact congrArg _ (List.map_congr_left fun d _ => d.read_bytes (.inr rfl))

end Endpoint

namespace Interface

/-- An interface as a host finds it. -/
def record (i : Interface) : InterfaceRecord :=
  ⟨i.number, i.state.alternate, i.endpoints.length, i.classCode, i.subclassCode, i.protocolCode,
    i.stringIndex⟩

/-- What a host finds of an interface and its endpoints. -/
def items (i : Interface) (speed : Speed) : List Item :=
  .interface i.record :: (i.legacyDescriptor?.toList.map Item.read ++
    i.classSpecific.map (·.item DescriptorType.classSpecificInterface) ++
    i.endpoints.flatMap (·.items speed))

/-- The header of an interface reads back as the record of the interface. -/
theorem read_header {i : Interface} (h : i.endpoints.length ≤ 255) :
    Item.read i.header = .interface i.record := by
  show Item.interface ⟨_, _, (Bytes.countByte i.endpoints.length).toNat, _, _, _, _⟩ = _
  rw [toNat_countByte h]
  rfl

/-- Every descriptor of an interface carries its own length. -/
theorem framed_descriptors {i : Interface} (h : ∀ d ∈ i.legacyDescriptor?, Framed d)
    (speed : Speed) : ∀ d ∈ i.descriptors speed, Framed d := by
  intro d hd
  rcases List.mem_cons.1 hd with rfl | hd
  · exact ⟨by show 2 ≤ 9; omega, rfl⟩
  rcases List.mem_append.1 hd with hd | hd
  · rcases List.mem_append.1 hd with hd | hd
    · exact h d (Option.mem_toList.1 hd)
    · obtain ⟨cs, -, rfl⟩ := List.mem_map.1 hd
      exact cs.framed_bytes _
  · obtain ⟨ep, -, hep⟩ := List.mem_flatMap.1 hd
    exact ep.framed_descriptors speed d hep

/-- The descriptors of an interface read back as its items. -/
theorem read_descriptors {i : Interface} (h : i.endpoints.length ≤ 255) (speed : Speed) :
    (i.descriptors speed).map Item.read = i.items speed := by
  have hcs : (i.classSpecific.map (·.bytes DescriptorType.classSpecificInterface)).map Item.read =
      i.classSpecific.map (·.item DescriptorType.classSpecificInterface) := by
    rw [List.map_map]
    exact List.map_congr_left fun d _ => d.read_bytes (.inl rfl)
  have heps : (i.endpoints.flatMap (·.descriptors speed)).map Item.read =
      i.endpoints.flatMap (·.items speed) := by
    rw [List.map_flatMap]
    exact congrArg (i.endpoints.flatMap ·) (funext fun ep => ep.read_descriptors speed)
  rw [descriptors, List.map_cons, List.map_append, List.map_append, read_header h, hcs, heps, items]

end Interface

namespace Configuration

/-- A configuration as a host finds it, given the number of all bytes. -/
def record (c : Configuration) (e : Encoding) (total : Nat) : ConfigurationRecord :=
  ⟨e.type, total, c.interfaces.length, c.value, c.stringIndex, c.attributes, c.maxPower⟩

/-- What a host finds of a configuration and all that it holds, given the number of all bytes. -/
def items (c : Configuration) (e : Encoding) (speed : Speed) (total : Nat) : List Item :=
  .configuration (c.record e total) :: c.interfaces.flatMap (·.items speed)

/-- The header of a configuration reads back as the record of the configuration. -/
theorem read_header {c : Configuration} (h : c.interfaces.length ≤ 255) (e : Encoding)
    {total : Nat} (htotal : total ≤ 65535) :
    Item.read (c.header e total) = .configuration (c.record e total) := by
  have hread : Item.read (c.header e total) = .configuration
      ⟨e.type, (Bytes.word (Bytes.totalWord total).toUInt8
        (Bytes.totalWord total >>> 8).toUInt8).toNat, (Bytes.countByte c.interfaces.length).toNat,
        c.value, c.stringIndex, c.attributes, c.maxPower⟩ := by
    cases e <;> rfl
  rw [hread, Bytes.word_ofWord, toNat_totalWord htotal, toNat_countByte h]
  rfl

/-- **A host finds the whole tree again.**  What goes out as either descriptor of a configuration,
at either speed and with nothing replaced, is cut by the walk into exactly the descriptors of the
tree, in order and with nothing left over.  Read by their types they give every field of the tree:
of the configuration the number of all bytes and of the interfaces, its value, string, attributes
and power; of each interface its number, alternate setting, number of endpoints, class and string;
of each endpoint its number, direction, transfer type, synchronisation, usage, packet size and
interval; and all class-specific payloads. -/
theorem decode_plan (c : Configuration) (e : Encoding) (speed : Speed)
    (hcount : c.interfaces.length ≤ 255)
    (hendpoints : ∀ i ∈ c.interfaces, i.endpoints.length ≤ 255)
    (hlegacy : ∀ i ∈ c.interfaces, ∀ d ∈ i.legacyDescriptor?, Framed d)
    (htotal : ((c.plan e speed).emit .disabled).1.length ≤ 65535) :
    walk ((c.plan e speed).emit .disabled).1 = some (c.descriptors e speed) ∧
      decode ((c.plan e speed).emit .disabled).1 =
        some (c.items e speed ((c.plan e speed).emit .disabled).1.length) := by
  rw [Layout.emit_disabled] at htotal ⊢
  dsimp only at htotal ⊢
  set bytes := (c.plan e speed).canonical with hbytes
  have hlength :
      9 + (c.interfaces.flatMap (·.descriptors speed)).flatten.length = bytes.length := by
    rw [hbytes, canonical_plan, descriptors, List.flatten_cons, List.length_append, length_header]
  have hframed : ∀ d ∈ c.descriptors e speed, Framed d := by
    intro d hd
    rcases List.mem_cons.1 hd with rfl | hd
    · exact ⟨by show 2 ≤ 9; omega, rfl⟩
    · obtain ⟨i, hi, hd⟩ := List.mem_flatMap.1 hd
      exact Interface.framed_descriptors (hlegacy i hi) speed d hd
  have hwalk : walk bytes = some (c.descriptors e speed) := by
    rw [hbytes, canonical_plan, walk_flatten hframed]
  have hread : (c.descriptors e speed).map Item.read = c.items e speed bytes.length := by
    have hinterfaces : (c.interfaces.flatMap (·.descriptors speed)).map Item.read =
        c.interfaces.flatMap (·.items speed) := by
      rw [List.map_flatMap, List.flatMap_def, List.flatMap_def]
      exact congrArg List.flatten
        (List.map_congr_left fun i hi => Interface.read_descriptors (hendpoints i hi) speed)
    rw [descriptors, List.map_cons, hinterfaces, hlength, read_header hcount e htotal, items]
  refine ⟨hwalk, ?_⟩
  rw [decode, hwalk, Option.map_some, hread]

/-- A keyboard: an interface with a class descriptor, a class-specific one, and an endpoint with a
class-specific one. -/
def keyboard : Configuration where
  interfaces :=
    [{ number := 0, classCode := InterfaceClass.hid, subclassCode := 1, protocolCode := 1,
       state :=
         { descriptors :=
             .ofList [(DescriptorType.hid, [9, 0x21, 0x11, 0x01, 0, 1, 0x22, 0x3f, 0])] },
       classSpecific := [.ofPayload [0xaa]],
       endpoints :=
         [{ Endpoint.ofNumber 1 .deviceToHost .interrupt 8 with
            interval := 10
            classSpecific := [.ofPayload [0xbb, 0xcc]] }] }]

/-- The hypotheses of `decode_plan` are satisfiable: a host finds the keyboard again. -/
theorem decode_plan_keyboard :
    (keyboard.interfaces.length ≤ 255 ∧
      (∀ i ∈ keyboard.interfaces, i.endpoints.length ≤ 255) ∧
      (∀ i ∈ keyboard.interfaces, ∀ d ∈ i.legacyDescriptor?, Framed d) ∧
      ((keyboard.plan .own .full).emit .disabled).1.length ≤ 65535) ∧
    walk ((keyboard.plan .own .full).emit .disabled).1 = some (keyboard.descriptors .own .full) ∧
      decode ((keyboard.plan .own .full).emit .disabled).1 = some
        [.configuration ⟨0x02, 41, 1, 1, 0, 0xc0, 0x32⟩,
          .interface ⟨0, 0, 1, 0x03, 1, 1, 0⟩,
          .other [9, 0x21, 0x11, 0x01, 0, 1, 0x22, 0x3f, 0],
          .classSpecific 0x24 [0xaa],
          .endpoint ⟨1, .deviceToHost, 0x03, .interrupt, .unsynchronised, .data, 8, 10⟩,
          .classSpecific 0x25 [0xbb, 0xcc]] :=
  ⟨by decide, keyboard.decode_plan .own .full (by decide) (by decide) (by decide) (by decide)⟩

end Configuration
end UsbGadget
