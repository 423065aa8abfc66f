/-
# The text of a string descriptor

A string descriptor holds at most 126 code units, and a longer text is cut there.
A character has one or two units (`Utf16.units_cases`), so the cut falls behind a
whole number of characters, or it falls into the pair of one of them and leaves
its high surrogate alone (`Utf16.take_encode`).

Whatever the text, the descriptor says its own length and holds the first 126 units
(`StringDescriptor.toNat_getElem?_bytesOfUnits` gives them by place).  A text whose
units all fit is read back, so no two such texts share a descriptor
(`StringDescriptor.text?_drop_ofText`).

Units are well formed if every surrogate has its partner, and these are the units
that `Utf16.decode` reads (`Utf16.isSome_decode_iff`).  What characters are encoded
as is read back as these characters (`Utf16.decode_encode`), but not if a high
surrogate follows (`Utf16.decode_encode_concat`).  So the text can be read, and is
a front of the string, just if no pair is split (`StringDescriptor.readable_iff`).
-/

import Mathlib.Data.List.Infix
import UsbGadget.Descriptor.Text

namespace UsbGadget
namespace Utf16

/-- A unit is a high surrogate just if it is in their range. -/
theorem isHigh_iff {u : UInt16} : isHigh u = true ↔ 0xd800 ≤ u.toNat ∧ u.toNat ≤ 0xdbff := by
  rw [isHigh, Bool.and_eq_true, decide_eq_true_iff, decide_eq_true_iff, UInt16.le_iff_toNat_le,
    UInt16.le_iff_toNat_le]
  rfl

/-- A unit is a low surrogate just if it is in their range. -/
theorem isLow_iff {u : UInt16} : isLow u = true ↔ 0xdc00 ≤ u.toNat ∧ u.toNat ≤ 0xdfff := by
  rw [isLow, Bool.and_eq_true, decide_eq_true_iff, decide_eq_true_iff, UInt16.le_iff_toNat_le,
    UInt16.le_iff_toNat_le]
  rfl

/-! ### What can be read -/

/-- Every unit is a character on its own or belongs to a surrogate pair. -/
inductive WellFormed : List UInt16 → Prop
  | nil : WellFormed []
  | unit {u : UInt16} {us : List UInt16} (hhigh : ¬ isHigh u) (hlow : ¬ isLow u)
      (h : WellFormed us) : WellFormed (u :: us)
  | pair {u v : UInt16} {us : List UInt16} (hhigh : isHigh u) (hlow : isLow v)
      (h : WellFormed us) : WellFormed (u :: v :: us)

/-- A unit that is no surrogate is read as the character with its number. -/
theorem decode_unit {u : UInt16} (hhigh : ¬ isHigh u) (hlow : ¬ isLow u) (us : List UInt16) :
    decode (u :: us) = (decode us).map (Char.ofNat u.toNat :: ·) := by
  cases us <;> simp [decode, hhigh, hlow]

/-- A high and a low surrogate are read as one character. -/
theorem decode_pair {u v : UInt16} (hhigh : isHigh u) (hlow : isLow v) (us : List UInt16) :
    decode (u :: v :: us) = (decode us).map (pair u v :: ·) := by
  simp [decode, hhigh, hlow]

/-- Units can be read just if they are well formed. -/
theorem isSome_decode_iff (us : List UInt16) : (decode us).isSome ↔ WellFormed us := by
  constructor
  · fun_induction decode us with
    | case1 => exact fun _ => .nil
    | case2 u hsurrogate => exact fun h => absurd h Bool.false_ne_true
    | case3 u hsurrogate =>
      rw [Bool.or_eq_true, not_or] at hsurrogate
      exact fun _ => .unit hsurrogate.1 hsurrogate.2 .nil
    | case4 u v us hhigh hlow ih => exact fun h => .pair hhigh hlow (ih (Option.isSome_map ▸ h))
    | case5 u v us hhigh hlow => exact fun h => absurd h Bool.false_ne_true
    | case6 u v us hhigh hlow => exact fun h => absurd h Bool.false_ne_true
    | case7 u v us hhigh hlow ih => exact fun h => .unit hhigh hlow (ih (Option.isSome_map ▸ h))
  · intro h
    induction h with
    | nil => rfl
    | unit hhigh hlow _ ih => rw [decode_unit hhigh hlow, Option.isSome_map, ih]
    | pair hhigh hlow _ ih => rw [decode_pair hhigh hlow, Option.isSome_map, ih]

/-! ### What characters are encoded as -/

/-- A character is one unit that is no surrogate, or a surrogate pair. -/
theorem units_cases (c : Char) :
    (c.toNat < 0x10000 ∧ ∃ u, units c = [u] ∧ ¬ isHigh u ∧ ¬ isLow u ∧ Char.ofNat u.toNat = c) ∨
      0x10000 ≤ c.toNat ∧ ∃ high low, units c = [high, low] ∧ isHigh high ∧ isLow low ∧
        pair high low = c := by
  have hvalid : c.toNat < 0xd800 ∨ 0xdfff < c.toNat ∧ c.toNat < 0x110000 := c.valid
  by_cases h : c.toNat < 0x10000
  · left
    have hu : (UInt16.ofNat c.toNat).toNat = c.toNat := UInt16.toNat_ofNat_of_lt' h
    refine ⟨h, UInt16.ofNat c.toNat, if_pos h, ?_, ?_, ?_⟩
    · rw [isHigh_iff, hu]
      omega
    · rw [isLow_iff, hu]
      omega
    · rw [hu, Char.ofNat_toNat]
  · right
    have hhigh : (UInt16.ofNat (0xd800 + (c.toNat - 0x10000) / 0x400)).toNat =
        0xd800 + (c.toNat - 0x10000) / 0x400 :=
      UInt16.toNat_ofNat_of_lt' (by show _ < 65536; omega)
    have hlow : (UInt16.ofNat (0xdc00 + (c.toNat - 0x10000) % 0x400)).toNat =
        0xdc00 + (c.toNat - 0x10000) % 0x400 :=
      UInt16.toNat_ofNat_of_lt' (by show _ < 65536; omega)
    refine ⟨Nat.le_of_not_lt h, _, _, if_neg h, ?_, ?_, ?_⟩
    · rw [isHigh_iff, hhigh]
      omega
    · rw [isLow_iff, hlow]
      omega
    · have hoffset : 0x10000 + (0xd800 + (c.toNat - 0x10000) / 0x400 - 0xd800) * 0x400 +
          (0xdc00 + (c.toNat - 0x10000) % 0x400 - 0xdc00) = c.toNat := by omega
      rw [pair, hhigh, hlow, hoffset, Char.ofNat_toNat]

/-- A character is read back, and what follows it is read on. -/
theorem decode_units_append (c : Char) (us : List UInt16) :
    decode (units c ++ us) = (decode us).map (c :: ·) := by
  rcases units_cases c with
    ⟨-, u, hunits, hhigh, hlow, hc⟩ | ⟨-, high, low, hunits, hhigh, hlow, hc⟩
  · rw [hunits, List.singleton_append, decode_unit hhigh hlow, hc]
  · rw [hunits, List.cons_append, List.singleton_append, decode_pair hhigh hlow, hc]

/-- Characters are read back in front of any other units. -/
theorem decode_encode_append (cs : List Char) (us : List UInt16) :
    decode (encode cs ++ us) = (decode us).map (cs ++ ·) := by
  induction cs with
  | nil => exact Option.map_id_apply.symm
  | cons c cs ih =>
    rw [encode, List.flatMap_cons, List.append_assoc, decode_units_append, ← encode, ih,
      Option.map_map]
    rfl

/-- Characters are read back from their units. -/
theorem decode_encode (cs : List Char) : decode (encode cs) = some cs := by
  have h := decode_encode_append cs []
  rwa [List.append_nil, decode, Option.map_some, List.append_nil] at h

/-- A high surrogate at the end has no partner. -/
theorem decode_encode_concat {high : UInt16} (h : isHigh high) (cs : List Char) :
    decode (encode cs ++ [high]) = none := by
  rw [decode_encode_append, decode, if_pos (by rw [h, Bool.true_or]), Option.map_none]

/-- The first units of a text are those of its first characters, or a high surrogate is left over of
the character behind these. -/
theorem take_encode (n : Nat) (cs : List Char) :
    ∃ before after, cs = before ++ after ∧
      ((encode cs).take n = encode before ∨
        ∃ c rest high, after = c :: rest ∧ 0x10000 ≤ c.toNat ∧ isHigh high ∧
          (encode before).length + 1 = n ∧ (encode cs).take n = encode before ++ [high]) := by
  induction cs generalizing n with
  | nil => exact ⟨[], [], rfl, .inl List.take_nil⟩
  | cons c cs ih =>
    by_cases hshort : n < (units c).length
    · refine ⟨[], c :: cs, rfl, ?_⟩
      have htake : (encode (c :: cs)).take n = (units c).take n :=
        List.take_append_of_le_length (Nat.le_of_lt hshort)
      rw [htake]
      cases n with
      | zero => exact .inl rfl
      | succ n =>
        rcases units_cases c with ⟨-, u, hunits, -⟩ | ⟨hc, high, low, hunits, hhigh, -⟩
        · rw [hunits] at hshort
          exact absurd hshort (Nat.not_lt.2 (Nat.le_add_left 1 n))
        · rw [hunits] at hshort ⊢
          obtain rfl : n = 0 := by
            have : n + 1 < 2 := hshort
            omega
          exact .inr ⟨c, cs, high, rfl, hc, hhigh, rfl, rfl⟩
    · obtain ⟨k, rfl⟩ := Nat.exists_eq_add_of_le (Nat.le_of_not_lt hshort)
      have htake : (encode (c :: cs)).take ((units c).length + k) = units c ++ (encode cs).take k :=
        List.take_length_add_append k
      have hcons : ∀ before, encode (c :: before) = units c ++ encode before := fun _ => rfl
      obtain ⟨before, after, hcs, hcut⟩ := ih k
      refine ⟨c :: before, after, congrArg (c :: ·) hcs, ?_⟩
      rw [htake, hcons]
      rcases hcut with hwhole | ⟨d, rest, high, hafter, hd, hhigh, hlength, hcut⟩
      · exact .inl (congrArg (units c ++ ·) hwhole)
      · right
        refine ⟨d, rest, high, hafter, hd, hhigh, ?_, ?_⟩
        · rw [List.length_append, Nat.add_assoc, hlength]
        · rw [hcut, List.append_assoc]

end Utf16

namespace StringDescriptor

/-- The bytes behind the header are the units of a text that can be read and that is a front of the
string. -/
def Readable (s : String) : Prop :=
  ∃ units cs, (ofText s).drop 2 = bytesOfUnits units ∧ Utf16.WellFormed units ∧
    Utf16.decode units = some cs ∧ cs <+: s.toList

/-- A surrogate pair takes the last unit that a string descriptor holds and the one behind it. -/
def SplitsPair (s : String) : Prop :=
  ∃ before c after, s.toList = before ++ c :: after ∧
    (Utf16.encode before).length + 1 = maxUnits ∧ 0x10000 ≤ c.toNat

/-- The bytes behind the header are those of the first units. -/
theorem drop_ofText (s : String) :
    (ofText s).drop 2 = bytesOfUnits ((Utf16.encode s.toList).take maxUnits) := rfl

/-- Units are determined by their bytes. -/
theorem bytesOfUnits_inj {us vs : List UInt16} (h : bytesOfUnits us = bytesOfUnits vs) :
    us = vs := by
  rw [← unitsOfBytes_bytesOfUnits us, h, unitsOfBytes_bytesOfUnits]

/-- A string is readable if its cut does not split a pair. -/
theorem readable_of_not_splitsPair {s : String} (h : ¬ SplitsPair s) : Readable s := by
  obtain ⟨before, after, hs, hwhole | ⟨c, rest, high, rfl, hc, -, hlength, -⟩⟩ :=
    Utf16.take_encode maxUnits s.toList
  · have hdecode := Utf16.decode_encode before
    refine ⟨Utf16.encode before, before, ?_, ?_, hdecode, hs ▸ List.prefix_append before after⟩
    · rw [drop_ofText, hwhole]
    · rw [← Utf16.isSome_decode_iff, hdecode]
      rfl
  · exact absurd ⟨before, c, rest, hs, hlength, hc⟩ h

/-- Where a pair is split, its high surrogate is the last unit. -/
theorem SplitsPair.exists_drop_ofText {s : String} (h : SplitsPair s) :
    ∃ before high, before <+: s.toList ∧ Utf16.isHigh high ∧
      (ofText s).drop 2 = bytesOfUnits (Utf16.encode before ++ [high]) := by
  obtain ⟨before, c, after, hs, hlength, hc⟩ := h
  rcases Utf16.units_cases c with ⟨hlt, -⟩ | ⟨-, high, low, hunits, hhigh, -⟩
  · exact absurd hc (Nat.not_le_of_lt hlt)
  · refine ⟨before, high, hs ▸ List.prefix_append _ _, hhigh, ?_⟩
    have hencode : Utf16.encode s.toList =
        Utf16.encode before ++ high :: low :: Utf16.encode after := by
      rw [hs, Utf16.encode, List.flatMap_append, List.flatMap_cons, hunits]
      rfl
    rw [drop_ofText, hencode, ← hlength, List.take_length_add_append]
    rfl

/-- A string whose cut splits a pair is not readable. -/
theorem SplitsPair.not_readable {s : String} (h : SplitsPair s) : ¬ Readable s := by
  obtain ⟨before, high, -, hhigh, hdrop⟩ := h.exists_drop_ofText
  rintro ⟨units, cs, hunits, -, hdecode, -⟩
  rw [← bytesOfUnits_inj (hdrop.symm.trans hunits), Utf16.decode_encode_concat hhigh] at hdecode
  cases hdecode

/-- **The text of a string descriptor can be read just if no surrogate pair is split.**  Then it is
a front of the string, made of whole characters.  A pair that takes the last unit that there is room
for and the one behind it is split: the text is a front of the string and, behind that, a high
surrogate without a partner, which is no well-formed text. -/
theorem readable_iff (s : String) :
    (Readable s ↔ ¬ SplitsPair s) ∧
      (SplitsPair s → ∃ before high, before <+: s.toList ∧ Utf16.isHigh high ∧
        (ofText s).drop 2 = bytesOfUnits (Utf16.encode before ++ [high]) ∧
        ¬ Utf16.WellFormed (Utf16.encode before ++ [high])) := by
  refine ⟨⟨fun h hsplits => hsplits.not_readable h, readable_of_not_splitsPair⟩, fun h => ?_⟩
  obtain ⟨before, high, hprefix, hhigh, hdrop⟩ := h.exists_drop_ofText
  refine ⟨before, high, hprefix, hhigh, hdrop, ?_⟩
  rw [← Utf16.isSome_decode_iff, Utf16.decode_encode_concat hhigh]
  exact Bool.false_ne_true

/-- The string descriptor of 125 letters and a grinning face cannot be read. -/
theorem not_readable_grinning : ¬ Readable (String.ofList (List.replicate 125 'x' ++ ['😀'])) := by
  refine SplitsPair.not_readable ⟨List.replicate 125 'x', '😀', [], String.toList_ofList, ?_, ?_⟩
  · decide +kernel
  · decide

/-! ### A text whose units fit -/

/-- There are two bytes for every unit. -/
theorem length_bytesOfUnits (units : List UInt16) :
    (bytesOfUnits units).length = 2 * units.length := Bytes.length_flatMap Bytes.length_ofWord units

/-- A unit has its low byte at an even place and its high byte right behind it. -/
theorem toNat_getElem?_bytesOfUnits (units : List UInt16) (i : Nat) :
    (bytesOfUnits units)[2 * i]?.map UInt8.toNat = units[i]?.map (·.toNat % 256) ∧
      (bytesOfUnits units)[2 * i + 1]?.map UInt8.toNat = units[i]?.map (·.toNat / 256) := by
  have hdrop : (bytesOfUnits units).drop (2 * i) = bytesOfUnits (units.drop i) :=
    Bytes.drop_flatMap Bytes.length_ofWord units i
  have hplace : ∀ j, (bytesOfUnits units)[2 * i + j]? = (bytesOfUnits (units.drop i))[j]? := by
    intro j
    rw [← List.getElem?_drop, hdrop]
  have hunit : units[i]? = (units.drop i)[0]? := by rw [List.getElem?_drop, Nat.add_zero]
  have hfirst : (bytesOfUnits units)[2 * i]? = (bytesOfUnits (units.drop i))[0]? := hplace 0
  rw [hfirst, hplace, hunit]
  cases units.drop i with
  | nil => exact ⟨rfl, rfl⟩
  | cons u us => exact ⟨congrArg some (Bytes.toNat_low u), congrArg some (Bytes.toNat_high u)⟩

/-- The text that bytes hold, the low byte of each unit first, if these are whole units and every
surrogate has its partner. -/
def text? (body : Bytes) : Option String :=
  if body.length % 2 = 0 then (Utf16.decode (unitsOfBytes body)).map String.ofList else none

/-- The text is read from bytes as it is from their units. -/
theorem text?_bytesOfUnits (units : List UInt16) :
    text? (bytesOfUnits units) = (Utf16.decode units).map String.ofList := by
  have heven : (bytesOfUnits units).length % 2 = 0 := by
    rw [length_bytesOfUnits]
    omega
  rw [text?, if_pos heven, unitsOfBytes_bytesOfUnits]

/-- A text whose units all fit is read back. -/
theorem text?_drop_ofText {s : String} (h : (Utf16.encode s.toList).length ≤ maxUnits) :
    text? ((ofText s).drop 2) = some s := by
  rw [drop_ofText, List.take_of_length_le h, text?_bytesOfUnits, Utf16.decode_encode,
    Option.map_some, String.ofList_toList]

/-- The length is that of the header and of the units that are kept. -/
theorem length_ofText (s : String) :
    (ofText s).length = 2 + 2 * min (Utf16.encode s.toList).length maxUnits := by
  have hcut : (ofText s).length = ((ofText s).drop 2).length + 2 := rfl
  rw [hcut, drop_ofText, length_bytesOfUnits, List.length_take, Nat.min_comm, Nat.add_comm]

/-- The length byte does not wrap. -/
theorem toNat_head?_ofText (s : String) :
    (ofText s).head?.map UInt8.toNat = some (ofText s).length := by
  have hlength := length_ofText s
  have hbyte : (ofText s).head?.map UInt8.toNat = some ((ofText s).length % 256) := by
    show some (Bytes.countByte (2 + ((ofText s).drop 2).length)).toNat = _
    rw [Bytes.countByte, UInt8.toNat_ofNat', Nat.add_comm]
    rfl
  unfold maxUnits at hlength
  rw [hbyte, Nat.mod_eq_of_lt (by omega)]

/-- **A string comes back from its descriptor if all its units fit.**  For every string the
descriptor has two bytes and two more for each of the first 126 units.  It starts with its own
length, which does not wrap, and the type 3; then the units follow in order, the low byte of each
first.  So a string of at most 126 units is what the bytes behind the header are read as, and no
other string of at most 126 units has the same descriptor. -/
theorem ofText_holds_units (s : String) :
    (ofText s).length = 2 + 2 * min (Utf16.encode s.toList).length 126 ∧
      (ofText s)[0]?.map UInt8.toNat = some (ofText s).length ∧
      (ofText s)[1]? = some 3 ∧
      (∀ i, (ofText s)[2 + 2 * i]?.map UInt8.toNat =
          ((Utf16.encode s.toList).take 126)[i]?.map (·.toNat % 256) ∧
        (ofText s)[3 + 2 * i]?.map UInt8.toNat =
          ((Utf16.encode s.toList).take 126)[i]?.map (·.toNat / 256)) ∧
      ((Utf16.encode s.toList).length ≤ 126 → text? ((ofText s).drop 2) = some s ∧
        ∀ t, (Utf16.encode t.toList).length ≤ 126 → ofText t = ofText s → t = s) := by
  refine ⟨length_ofText s, ?_, rfl, fun i => ?_, fun hs => ⟨text?_drop_ofText hs, ?_⟩⟩
  · rw [← List.head?_eq_getElem?, toNat_head?_ofText]
  · have hplace : ∀ k, (ofText s)[2 + k]? = ((ofText s).drop 2)[k]? := fun k =>
      List.getElem?_drop.symm
    have hhigh : 3 + 2 * i = 2 + (2 * i + 1) := by omega
    rw [hhigh, hplace, hplace, drop_ofText]
    exact toNat_getElem?_bytesOfUnits _ i
  · intro t ht h
    have hread := text?_drop_ofText ht
    rw [h, text?_drop_ofText hs] at hread
    exact (Option.some.inj hread).symm

/-- A letter and a grinning face have three units, and they are read back. -/
theorem ofText_holds_units_grinning :
    (Utf16.encode "A😀".toList).length = 3 ∧ text? ((ofText "A😀").drop 2) = some "A😀" :=
  ⟨by decide +kernel, ((ofText_holds_units "A😀").2.2.2.2 (by decide +kernel)).1⟩

end StringDescriptor
end UsbGadget
