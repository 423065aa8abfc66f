/-
# A host reads a billboard back

The descriptor of a billboard, three bytes of header and then its payload:

| bytes | field |
| --- | --- |
| 0 | length of the descriptor |
| 1–2 | types `10` and `0d` |
| 3 | string index of the address with more information |
| 4 | number of modes |
| 5 | preferred mode |
| 6–7 | power of the plug |
| 8–39 | two bits per mode: what became of entering it |
| 40–41 | version |
| 42 | additional failure information |
| 43 | 0 |
| 44– | per mode four bytes: standard or vendor id, mode, string index |

The states of the modes are packed: mode `i` has the bits `2 i` and `2 i + 1` of
the field, counted from the lowest bit of its first byte.  A field that is filled
by writing one state after the other into the byte that holds it
(`Billboard.writeState?`, which changes two bits and no others) is the one that the
descriptor has: what carries this is `Billboard.HoldsStates`, which says what each
bit of the field is, so that it determines the field (`HoldsStates.unique`).

All else stands at fixed offsets.  52 modes are the most that fit, and with these
the payload has 249 bytes, so that nothing of it is cut and `Billboard.read?` finds
all fields and these modes again (`Billboard.readsBack`).
-/

import Mathlib.Tactic.IntervalCases
import UsbGadget.Proofs.StoreStream

namespace UsbGadget

/-! ### Bits of a field -/

namespace Bytes

/-- The bit at a position, counted from the lowest bit of the first byte. -/
def bitAt? (bytes : Bytes) (k : Nat) : Option Bool :=
  (bytes[k / 8]?).map (·.toNat.testBit (k % 8))

/-- Fields of one length with the same bits are the same. -/
theorem ext_bitAt? {a b : Bytes} (hlength : a.length = b.length)
    (h : ∀ k < 8 * a.length, a.bitAt? k = b.bitAt? k) : a = b := by
  refine List.ext_getElem hlength fun i ha hb => ?_
  refine UInt8.eq_iff_toBitVec_eq.2 (BitVec.eq_of_getLsbD_eq fun j hj => ?_)
  have hbit := h (8 * i + j) (by omega)
  have hbyte : (8 * i + j) / 8 = i := by omega
  have hplace : (8 * i + j) % 8 = j := by omega
  rw [bitAt?, bitAt?, hbyte, hplace, List.getElem?_eq_getElem ha, List.getElem?_eq_getElem hb]
    at hbit
  exact Option.some.inj hbit

end Bytes

/-! ### States of modes -/

/-- The state with the given low and high bit. -/
def ModeState.ofPair : Bool → Bool → ModeState
  | false, false => unspecified
  | true, false => notAttempted
  | false, true => unsuccessful
  | true, true => configured

/-- One of the two bits of a state. -/
def ModeState.bit (s : ModeState) (j : Nat) : Bool := s.bits.toNat.testBit j

/-- Reading the two bits of a state gives the state back. -/
theorem ModeState.ofPair_bit (s : ModeState) : ofPair (s.bit 0) (s.bit 1) = s := by
  cases s <;> decide

/-- A state that is shifted into the place of one of the four modes of a byte has its bits there. -/
theorem ModeState.testBit_shiftLeft (s : ModeState) : ∀ place < 4, ∀ j < 8,
    (s.bits <<< UInt8.ofNat (place * 2)).toNat.testBit j =
      (decide (j / 2 = place) && s.bit (j % 2)) := by
  cases s <;> decide

namespace Billboard

/-- The state of the mode at a position; there is nothing to say about one that is not given. -/
def stateAt (modes : List AlternateMode) (i : Nat) : ModeState :=
  (modes[i]?).elim .unspecified (·.state)

/-- The number that the encoder packs for a mode is the two bits of that mode's state. -/
theorem stateBits_eq (modes : List AlternateMode) (i : Nat) :
    stateBits modes i = (stateAt modes i).bits := by
  rw [stateBits, stateAt]
  cases modes[i]? <;> rfl

/-- A mode beyond the last one has the unspecified state. -/
theorem stateAt_of_le {modes : List AlternateMode} {i : Nat} (h : modes.length ≤ i) :
    stateAt modes i = .unspecified := by
  rw [stateAt, List.getElem?_eq_none h]
  rfl

/-- One mode more changes the state at its own index only. -/
theorem stateAt_concat (modes : List AlternateMode) (m : AlternateMode) (i : Nat) :
    stateAt (modes ++ [m]) i = if i = modes.length then m.state else stateAt modes i := by
  rw [stateAt, stateAt]
  split
  · rename_i h
    rw [h, List.getElem?_concat_length]
    rfl
  · rename_i h
    rcases Nat.lt_or_gt_of_ne h with hlt | hgt
    · rw [List.getElem?_append_left hlt]
    · rw [List.getElem?_eq_none (by rw [List.length_append]; exact hgt),
        List.getElem?_eq_none (Nat.le_of_lt hgt)]

/-- Bit `j` of byte `k` is a bit of the state of mode `4 k + j / 2`. -/
theorem testBit_configuredByte (modes : List AlternateMode) (k : Nat) {j : Nat} (hj : j < 8) :
    (configuredByte modes k).toNat.testBit j = (stateAt modes (4 * k + j / 2)).bit (j % 2) := by
  have hshift : ∀ i, ∀ place < 4,
      (stateBits modes i <<< UInt8.ofNat (place * 2)).toNat.testBit j =
        (decide (j / 2 = place) && (stateAt modes i).bit (j % 2)) := by
    intro i place hplace
    rw [stateBits_eq, ModeState.testBit_shiftLeft _ place hplace j hj]
  -- The first state of a byte is not shifted, which is as good as a shift by nothing.
  have hbyte : configuredByte modes k =
      stateBits modes (4 * k) <<< UInt8.ofNat (0 * 2) |||
        stateBits modes (4 * k + 1) <<< UInt8.ofNat (1 * 2) |||
        stateBits modes (4 * k + 2) <<< UInt8.ofNat (2 * 2) |||
        stateBits modes (4 * k + 3) <<< UInt8.ofNat (3 * 2) := by
    have hfirst : stateBits modes (4 * k) <<< UInt8.ofNat (0 * 2) = stateBits modes (4 * k) :=
      UInt8.shiftLeft_zero
    rw [configuredByte, hfirst]
    rfl
  have hpart : j / 2 < 4 := by omega
  rw [hbyte, UInt8.toNat_or, UInt8.toNat_or, UInt8.toNat_or, Nat.testBit_or, Nat.testBit_or,
    Nat.testBit_or, hshift _ 0 (by omega), hshift _ 1 (by omega), hshift _ 2 (by omega),
    hshift _ 3 (by omega)]
  interval_cases j / 2 <;> simp

/-- The bits of the field are those of the states, two for each mode. -/
theorem bitAt?_configuredField (modes : List AlternateMode) {k : Nat} (hk : k < 256) :
    (configuredField modes).bitAt? k = some ((stateAt modes (k / 2)).bit (k % 2)) := by
  have hbyte : (configuredField modes)[k / 8]? = some (configuredByte modes (k / 8)) := by
    rw [configuredField, List.getElem?_map, List.getElem?_range (by omega), Option.map_some]
  have hbit := testBit_configuredByte modes (k / 8) (Nat.mod_lt k (by omega : 8 > 0))
  have hmode : 4 * (k / 8) + k % 8 / 2 = k / 2 := by omega
  have hplace : k % 8 % 2 = k % 2 := by omega
  rw [Bytes.bitAt?, hbyte, Option.map_some, hbit, hmode, hplace]

/-- The bitmap has 32 bytes, whatever the number of modes. -/
theorem length_configuredField (modes : List AlternateMode) :
    (configuredField modes).length = 32 := by
  rw [configuredField, List.length_map, List.length_range]

/-! ### Writing the states -/

/-- Writes the state of the mode at a position into the byte that holds it, if the field has that
byte. -/
def writeState? (field : Bytes) (i : Nat) (s : ModeState) : Option Bytes :=
  (field[i / 4]?).map fun byte =>
    field.set (i / 4) (byte ||| (s.bits <<< UInt8.ofNat (i % 4 * 2)))

/-- Writes the states of modes one after the other, the first one at a position. -/
def writeStates? (field : Bytes) (i : Nat) : List AlternateMode → Option Bytes
  | [] => some field
  | m :: ms => (writeState? field i m.state).bind fun field => writeStates? field (i + 1) ms

/-- There is no byte for mode 128. -/
example : writeState? (List.replicate 32 0) 127 .configured ≠ none ∧
    writeState? (List.replicate 32 0) 128 .configured = none := by decide

/-- Writing a state changes its two bits and no others. -/
theorem exists_writeState? {field : Bytes} {i : Nat} (h : i < 4 * field.length) (s : ModeState) :
    ∃ after, writeState? field i s = some after ∧ after.length = field.length ∧
      ∀ k, after.bitAt? k =
        if k / 2 = i then (field.bitAt? k).map (· || s.bit (k % 2)) else field.bitAt? k := by
  have hbyte : i / 4 < field.length := by omega
  refine ⟨_, by rw [writeState?, List.getElem?_eq_getElem hbyte, Option.map_some],
    List.length_set, fun k => ?_⟩
  rw [Bytes.bitAt?, Bytes.bitAt?]
  -- A bit of the byte that is written belongs to the mode or to one of its three neighbours.
  by_cases hsame : k / 8 = i / 4
  · have hbit := s.testBit_shiftLeft (i % 4) (by omega) (k % 8) (by omega)
    have hplace : k % 8 % 2 = k % 2 := by omega
    have hmode : k % 8 / 2 = i % 4 ↔ k / 2 = i := by omega
    rw [hsame, List.getElem?_set_self hbyte, List.getElem?_eq_getElem hbyte, Option.map_some,
      Option.map_some, UInt8.toNat_or, Nat.testBit_or, hbit, hplace]
    by_cases hi : k / 2 = i
    · rw [if_pos hi, decide_eq_true (hmode.2 hi), Bool.true_and, Option.map_some]
    · rw [if_neg hi, decide_eq_false fun h => hi (hmode.1 h), Bool.false_and, Bool.or_false]
  · have hother : k / 2 ≠ i := by omega
    rw [List.getElem?_set_ne (Ne.symm hsame), if_neg hother]

/-- The field has room for 128 states, and says those of the modes. -/
structure HoldsStates (field : Bytes) (modes : List AlternateMode) : Prop where
  length : field.length = 32
  bits : ∀ k < 256, field.bitAt? k = some ((stateAt modes (k / 2)).bit (k % 2))

/-- Modes have one field. -/
theorem HoldsStates.unique {field field' : Bytes} {modes : List AlternateMode}
    (h : HoldsStates field modes) (h' : HoldsStates field' modes) : field = field' := by
  have hlength := h.length
  refine Bytes.ext_bitAt? (h.length.trans h'.length.symm) fun k hk => ?_
  rw [h.bits k (by omega), h'.bits k (by omega)]

/-- The bitmap holds the state of every mode, two bits each. -/
theorem holdsStates_configuredField (modes : List AlternateMode) :
    HoldsStates (configuredField modes) modes :=
  ⟨length_configuredField modes, fun _ hk => bitAt?_configuredField modes hk⟩

/-- The next mode has nothing written yet in its place, so its state is what stands there then. -/
theorem HoldsStates.write {field : Bytes} {modes : List AlternateMode} (h : HoldsStates field modes)
    (hroom : modes.length < 128) (m : AlternateMode) :
    ∃ after, writeState? field modes.length m.state = some after ∧
      HoldsStates after (modes ++ [m]) := by
  have hlength := h.length
  have hbyte : modes.length < 4 * field.length := by omega
  obtain ⟨after, hwrite, hafter, hbits⟩ := exists_writeState? hbyte m.state
  refine ⟨after, hwrite, hafter.trans hlength, fun k hk => ?_⟩
  rw [hbits, h.bits k hk, stateAt_concat]
  split
  · rename_i hplace
    have hblank : ∀ j, ModeState.unspecified.bit j = false := Nat.zero_testBit
    rw [stateAt_of_le (Nat.le_of_eq hplace.symm), hblank, Option.map_some, Bool.false_or]
  · rfl

/-- What is written state by state is the field of all modes, those before and those written. -/
theorem HoldsStates.writeAll {field : Bytes} {modes : List AlternateMode}
    (h : HoldsStates field modes) (more : List AlternateMode)
    (hroom : modes.length + more.length ≤ 128) :
    ∃ after, writeStates? field modes.length more = some after ∧
      HoldsStates after (modes ++ more) := by
  induction more generalizing field modes with
  | nil => exact ⟨field, rfl, by rwa [List.append_nil]⟩
  | cons m more ih =>
    rw [List.length_cons] at hroom
    obtain ⟨next, hnext, hholds⟩ := h.write (by omega) m
    have hlength : (modes ++ [m]).length = modes.length + 1 := List.length_append
    obtain ⟨after, hafter, hall⟩ := ih hholds (by omega)
    refine ⟨after, ?_, by rwa [List.append_assoc] at hall⟩
    rw [writeStates?, hnext, Option.bind_some, ← hlength, hafter]

/-- Up to 128 states fit, and writing them one after the other gives the field. -/
theorem writeStates?_eq {modes : List AlternateMode} (h : modes.length ≤ 128) :
    writeStates? (List.replicate 32 0) 0 modes = some (configuredField modes) := by
  have hblank : HoldsStates (List.replicate 32 0) [] := by
    have hfield : List.replicate 32 0 = configuredField [] := by decide
    exact hfield ▸ holdsStates_configuredField []
  obtain ⟨after, hafter, hholds⟩ := hblank.writeAll modes (by simpa using h)
  rw [← hholds.unique (holdsStates_configuredField modes)]
  exact hafter

/-! ### What a host reads -/

/-- The field of states in a descriptor. -/
def statesOf (d : Bytes) : Bytes := (d.drop 8).take 32

/-- Reads the mode at a position: its state out of the field, all else out of its four bytes. -/
def readMode? (d : Bytes) (i : Nat) : Option AlternateMode := do
  return {
    svid := Bytes.word (← d[44 + 4 * i]?) (← d[44 + 4 * i + 1]?)
    mode := ← d[44 + 4 * i + 2]?
    stringIndex := ← d[44 + 4 * i + 3]?
    state := .ofPair (← (statesOf d).bitAt? (2 * i)) (← (statesOf d).bitAt? (2 * i + 1)) }

/-- Reads a billboard with as many modes as its descriptor says. -/
def read? (d : Bytes) : Option Billboard := do
  return {
    infoUrl := ← d[3]?
    preferredMode := ← d[5]?
    vconnPower := Bytes.word (← d[6]?) (← d[7]?)
    version := Bytes.word (← d[40]?) (← d[41]?)
    failureInfo := ← d[42]?
    modes := ← (List.range (← d[4]?).toNat).mapM (readMode? d) }

/-- What a host finds of a billboard in its descriptor. -/
structure ReadsBack (b : Billboard) (d : Bytes) : Prop where
  length : d.length = 44 + 4 * min b.modes.length 52
  lengthByte : d.byteAt? 0 = some d.length
  types : (d.drop 1).take 2 = [0x10, 0x0d]
  count : d.byteAt? 4 = some (min b.modes.length 52)
  fields : read? d = some { b with modes := b.modes.take 52 }
  modes : ∀ i < min b.modes.length 52, readMode? d i = b.modes[i]?
  unusedBits : ∀ k, 2 * min b.modes.length 52 ≤ k → k < 256 → (statesOf d).bitAt? k = some false
  written : writeStates? (List.replicate 32 0) 0 (b.modes.take 52) = some (statesOf d)

/-- At most 52 modes are advertised, as many as one descriptor can hold. -/
theorem length_advertised (b : Billboard) : b.advertised.length = min b.modes.length 52 := by
  rw [advertised, List.length_take, Nat.min_comm]
  rfl

/-- A mode takes four bytes. -/
theorem length_modeBytes (m : AlternateMode) : (modeBytes m).length = 4 := rfl

/-- The descriptor: eight bytes, the states, four bytes, the modes. -/
def parts (b : Billboard) : Bytes :=
  [Bytes.countByte (44 + 4 * b.advertised.length), DescriptorType.deviceCapability,
      CapabilityType.billboard, b.infoUrl, Bytes.countByte b.advertised.length, b.preferredMode,
      b.vconnPower.toUInt8, (b.vconnPower >>> 8).toUInt8] ++
    (configuredField b.advertised ++
      ([b.version.toUInt8, (b.version >>> 8).toUInt8, b.failureInfo, 0] ++
        b.advertised.flatMap modeBytes))

/-- The payload has 41 bytes and four for each advertised mode. -/
theorem length_payload (b : Billboard) : b.payload.length = 41 + 4 * b.advertised.length := by
  simp only [payload, List.length_append, Bytes.length_ofWord, length_configuredField,
    Bytes.length_flatMap length_modeBytes, List.length_cons, List.length_nil]

/-- Nothing of the payload is cut. -/
theorem encoded_eq (b : Billboard) : (Capability.billboard b).encoded = b.parts := by
  have hmodes := b.length_advertised
  have hlength := b.length_payload
  have hwhole : b.payload.take Capability.maxPayload = b.payload :=
    List.take_of_length_le (by unfold Capability.maxPayload; omega)
  have hcount : b.payload.length + 3 = 44 + 4 * b.advertised.length := by omega
  rw [Capability.encoded_eq, Capability.bytes, Capability.payload, hwhole, hcount, payload]
  simp only [List.append_assoc]
  rfl

/-- The capability has 44 bytes and four for each advertised mode. -/
theorem length_parts (b : Billboard) : b.parts.length = 44 + 4 * b.advertised.length := by
  simp only [parts, List.length_append, length_configuredField,
    Bytes.length_flatMap length_modeBytes, List.length_cons, List.length_nil]
  omega

/-- Behind the first eight bytes stand the states, and behind these all else. -/
theorem drop_parts (b : Billboard) :
    statesOf b.parts = configuredField b.advertised ∧
      b.parts.drop 40 = [b.version.toUInt8, (b.version >>> 8).toUInt8, b.failureInfo, 0] ++
        b.advertised.flatMap modeBytes := by
  have hbehind : b.parts.drop 8 = configuredField b.advertised ++
      ([b.version.toUInt8, (b.version >>> 8).toUInt8, b.failureInfo, 0] ++
        b.advertised.flatMap modeBytes) := rfl
  have hstates := length_configuredField b.advertised
  refine ⟨?_, ?_⟩
  · rw [statesOf, hbehind, List.take_left' hstates]
  · rw [show 40 = 8 + 32 from rfl, ← List.drop_drop, hbehind, List.drop_left' hstates]

/-- The two bits of a mode are its state. -/
theorem bitAt?_advertised (b : Billboard) {i : Nat} (h : i < b.advertised.length) {j : Nat}
    (hj : j < 2) :
    (statesOf b.parts).bitAt? (2 * i + j) = some (b.advertised[i].state.bit j) := by
  have hmodes := b.length_advertised
  have hstate : stateAt b.advertised i = b.advertised[i].state := by
    rw [stateAt, List.getElem?_eq_getElem h]
    rfl
  have hmode : (2 * i + j) / 2 = i := by omega
  have hplace : (2 * i + j) % 2 = j := by omega
  rw [b.drop_parts.1, bitAt?_configuredField _ (by omega), hmode, hplace, hstate]

/-- The four bytes of a mode stand at their offset. -/
theorem getElem?_parts (b : Billboard) {i : Nat} (h : i < b.advertised.length) (j : Nat) :
    b.parts[44 + 4 * i + j]? =
      (modeBytes b.advertised[i] ++ (b.advertised.drop (i + 1)).flatMap modeBytes)[j]? := by
  have hdrop : b.parts.drop (44 + 4 * i) = (b.advertised.drop i).flatMap modeBytes := by
    rw [← Bytes.drop_flatMap length_modeBytes, ← List.drop_drop]
    exact congrArg (List.drop (4 * i)) (congrArg (List.drop 4) b.drop_parts.2)
  rw [← List.getElem?_drop, hdrop, List.drop_eq_getElem_cons h, List.flatMap_cons]

/-- The entry of an advertised mode reads back as that mode. -/
theorem readMode?_parts (b : Billboard) {i : Nat} (h : i < b.advertised.length) :
    readMode? b.parts i = some b.advertised[i] := by
  have hfirst := b.getElem?_parts h 0
  have hlow := b.bitAt?_advertised h (j := 0) (by omega)
  rw [Nat.add_zero] at hfirst hlow
  rw [readMode?, hfirst, b.getElem?_parts h 1, b.getElem?_parts h 2, b.getElem?_parts h 3, hlow,
    b.bitAt?_advertised h (by omega)]
  show some (AlternateMode.mk (Bytes.word b.advertised[i].svid.toUInt8
    (b.advertised[i].svid >>> 8).toUInt8) _ _ (.ofPair _ _)) = _
  rw [Bytes.word_ofWord, ModeState.ofPair_bit]

/-- The capability reads back as the billboard with its advertised modes. -/
theorem read?_parts (b : Billboard) : read? b.parts = some { b with modes := b.advertised } := by
  have hmodes := b.length_advertised
  have hcount : (Bytes.countByte b.advertised.length).toNat = b.advertised.length :=
    toNat_countByte (by omega)
  have hread : (List.range b.advertised.length).mapM (readMode? b.parts) = some b.advertised := by
    refine mapM_eq_some_of_forall₂ (List.forall₂_iff_get.2 ⟨List.length_range, fun i hi hi' => ?_⟩)
    rw [List.get_eq_getElem, List.getElem_range]
    exact b.readMode?_parts hi'
  have hbehind : ∀ j, b.parts[40 + j]? = ([b.version.toUInt8, (b.version >>> 8).toUInt8,
      b.failureInfo, 0] ++ b.advertised.flatMap modeBytes)[j]? := by
    intro j
    rw [← List.getElem?_drop, b.drop_parts.2]
  have hheader : b.parts[3]? = some b.infoUrl ∧
      b.parts[4]? = some (Bytes.countByte b.advertised.length) ∧
      b.parts[5]? = some b.preferredMode ∧ b.parts[6]? = some b.vconnPower.toUInt8 ∧
      b.parts[7]? = some (b.vconnPower >>> 8).toUInt8 := ⟨rfl, rfl, rfl, rfl, rfl⟩
  have htrailer : b.parts[40]? = some b.version.toUInt8 ∧
      b.parts[41]? = some (b.version >>> 8).toUInt8 ∧ b.parts[42]? = some b.failureInfo :=
    ⟨hbehind 0, hbehind 1, hbehind 2⟩
  simp only [read?, hheader, htrailer, Option.bind_eq_bind, Option.bind_some, hcount, hread,
    Bytes.word_ofWord]
  rfl

/-- **A host finds all of a billboard again, but for the modes that do not fit.**  The descriptor
has 44 bytes and four more for each of the first 52 modes; its first byte is its length, and its
fifth the number of these modes.  Read at the fixed offsets it gives back the address, the preferred
mode, the power, the version and the failure, and of each of these modes the id, the mode, the
string and the state.  The bits of the field of states behind these modes are zero, and writing the
states into a blank field one after the other stays within the field and gives it. -/
theorem readsBack (b : Billboard) : b.ReadsBack (Capability.billboard b).encoded := by
  have hmodes := b.length_advertised
  have hlength := b.length_parts
  rw [encoded_eq]
  refine ⟨by omega, ?_, rfl, ?_, b.read?_parts, fun i hi => ?_, fun k hlow hhigh => ?_, ?_⟩
  · show some (Bytes.countByte (44 + 4 * b.advertised.length)).toNat = some b.parts.length
    rw [toNat_countByte (by omega), hlength]
  · show some (Bytes.countByte b.advertised.length).toNat = _
    rw [toNat_countByte (by omega), hmodes]
  · rw [b.readMode?_parts (by omega), ← List.getElem?_eq_getElem, advertised,
      List.getElem?_take_of_lt (by unfold maxModes; omega)]
  · have hunused : b.advertised.length ≤ k / 2 := by omega
    rw [b.drop_parts.1, bitAt?_configuredField _ hhigh, stateAt_of_le hunused]
    exact congrArg some (Nat.zero_testBit _)
  · have hroom : b.advertised.length ≤ 128 := by omega
    rw [b.drop_parts.1]
    exact writeStates?_eq hroom

/-- Two modes in different states: `3` in the lowest two bits of the field, `2` in the next two. -/
example : (Capability.billboard
    { modes := [⟨0xff01, 1, 2, .configured⟩, ⟨0x8087, 3, 4, .unsuccessful⟩] }).encoded =
      [52, 0x10, 0x0d, 0, 2, 0, 0, 0, 0x0b] ++ List.replicate 31 0 ++
        [0x10, 0x01, 0, 0, 0x01, 0xff, 1, 2, 0x87, 0x80, 3, 4] := by decide +kernel

end Billboard
end UsbGadget
