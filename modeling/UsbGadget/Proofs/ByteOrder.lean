/-
# Texts stand in the order of their bytes

Texts are compared by code points, character by character; names in a file or a
table are said to stand in the order of their UTF-8 bytes.  The two orders are one
(`Utf8.precedes_iff`).

A character is a lead byte and up to three continuation bytes (`Utf8.sequence`):

| from code point | continuation bytes | lead byte |
| --- | ---: | --- |
| `0` | 0 | the code point |
| `80` | 1 | `c0` and the bits above 6 |
| `800` | 2 | `e0` and the bits above 12 |
| `10000` | 3 | `f0` and the bits above 18 |

More continuation bytes come with a greater lead byte, and under one number of them
the bytes are digits to the base 64, the highest first.  So the first character in
which two texts differ decides in both orders (`Utf8.utf8EncodeChar_append_lt`).
-/

import Mathlib.Tactic.IntervalCases
import Mathlib.Tactic.SplitIfs
import UsbGadget.Bytes

namespace UsbGadget
namespace Utf8

/-- The bytes of a text. -/
def encode (s : String) : Bytes := s.toUTF8.data.toList

/-- A text comes before another in the order of their bytes. -/
def Precedes (s t : String) : Prop := encode s < encode t

instance (s t : String) : Decidable (Precedes s t) :=
  inferInstanceAs (Decidable (encode s < encode t))

/-! ### One character -/

/-- The last `k` groups of six bits of a number, the highest first, each in a continuation byte. -/
def continuationBytes : Nat → Nat → Bytes
  | 0, _ => []
  | k + 1, n => UInt8.ofNat (n / 64 ^ k % 64 + 0x80) :: continuationBytes k n

/-- What a lead byte adds to the bits that it carries, by the number of bytes that follow. -/
def leadMark : Nat → Nat
  | 0 => 0
  | 1 => 0xc0
  | 2 => 0xe0
  | _ => 0xf0

/-- The bytes of a code point of which `k` continuation bytes hold the low bits. -/
def sequence (k n : Nat) : Bytes := UInt8.ofNat (n / 64 ^ k + leadMark k) :: continuationBytes k n

/-- The lowest code point with `k` continuation bytes. -/
def lowest : Nat → Nat
  | 0 => 0
  | 1 => 0x80
  | 2 => 0x800
  | 3 => 0x10000
  | _ => 0x110000

/-- The bytes of a character are a lead byte and at most three continuation bytes, as its code point
demands. -/
theorem exists_utf8EncodeChar_eq (c : Char) :
    ∃ k ≤ 3, lowest k ≤ c.toNat ∧ c.toNat < lowest (k + 1) ∧
      String.utf8EncodeChar c = sequence k c.toNat := by
  have hvalid : c.toNat < 0x110000 := by
    have h := c.valid
    simp only [UInt32.isValidChar, Nat.isValidChar] at h
    show c.val.toNat < _
    omega
  unfold String.utf8EncodeChar
  simp only [Char.toNat] at *
  generalize c.val.toNat = n at *
  split_ifs with h₁ h₂ h₃
  · exact ⟨0, by omega, by simp only [lowest]; omega, by simp only [lowest]; omega,
      by simp [sequence, continuationBytes, leadMark]⟩
  · have hlead : n / 64 % 32 = n / 64 := by omega
    exact ⟨1, by omega, by simp only [lowest]; omega, by simp only [lowest]; omega,
      by simp [sequence, continuationBytes, leadMark, hlead]⟩
  · have hlead : n / 4096 % 16 = n / 4096 := by omega
    exact ⟨2, by omega, by simp only [lowest]; omega, by simp only [lowest]; omega,
      by simp [sequence, continuationBytes, leadMark, hlead]⟩
  · have hlead : n / 262144 % 8 = n / 262144 := by omega
    exact ⟨3, by omega, by simp only [lowest]; omega, by simp only [lowest]; omega,
      by simp [sequence, continuationBytes, leadMark, hlead]⟩

/-- The lead byte of a sequence fits into a byte. -/
theorem lead_lt {k n : Nat} (hk : k ≤ 3) (hn : n < lowest (k + 1)) :
    n / 64 ^ k + leadMark k < 256 := by
  interval_cases k <;> simp only [lowest, leadMark] at * <;> omega

/-- A longer sequence has the greater lead byte. -/
theorem lead_lt_lead {j k m n : Nat} (hjk : j < k) (hk : k ≤ 3) (hm : m < lowest (j + 1)) :
    m / 64 ^ j + leadMark j < n / 64 ^ k + leadMark k := by
  interval_cases k <;> interval_cases j <;> simp only [lowest, leadMark] at * <;> omega

/-- The range of a longer sequence begins later. -/
theorem lowest_le_lowest {j k : Nat} (hjk : j ≤ k) (hk : k ≤ 3) : lowest j ≤ lowest k := by
  interval_cases k <;> interval_cases j <;> simp only [lowest] <;> omega

/-! ### Two characters -/

/-- Two byte strings compare by their first bytes, and by the rest where these are equal. -/
theorem ofNat_cons_lt {m n : Nat} {x y : Bytes} (hm : m < 256) (hn : n < 256)
    (h : m < n ∨ m = n ∧ x < y) : UInt8.ofNat m :: x < UInt8.ofNat n :: y := by
  rw [List.cons_lt_cons_iff, UInt8.lt_iff_toNat_lt, UInt8.toNat_ofNat_of_lt' hm,
    UInt8.toNat_ofNat_of_lt' hn]
  exact h.imp_right fun ⟨heq, hlt⟩ => ⟨congrArg UInt8.ofNat heq, hlt⟩

/-- Continuation bytes compare as the numbers they hold, whatever follows. -/
theorem continuationBytes_append_lt {k m n : Nat} (h : m % 64 ^ k < n % 64 ^ k) (x y : Bytes) :
    continuationBytes k m ++ x < continuationBytes k n ++ y := by
  induction k with
  | zero => omega
  | succ k ih =>
    rw [Nat.mod_pow_succ, Nat.mod_pow_succ] at h
    refine ofNat_cons_lt (by omega) (by omega) ?_
    rcases Nat.lt_trichotomy (m / 64 ^ k % 64) (n / 64 ^ k % 64) with hlt | heq | hgt
    · left
      omega
    · right
      rw [heq] at h ⊢
      exact ⟨rfl, ih (by omega)⟩
    · -- A digit that is greater outweighs all that follow.
      have hrest : n % 64 ^ k < 64 ^ k := Nat.mod_lt _ (Nat.pow_pos (by decide))
      have hdigit := Nat.mul_le_mul_left (64 ^ k) hgt
      rw [Nat.mul_succ] at hdigit
      omega

/-- Sequences of one length compare as the numbers they hold, whatever follows. -/
theorem sequence_append_lt {k m n : Nat} (hm : m / 64 ^ k + leadMark k < 256)
    (hn : n / 64 ^ k + leadMark k < 256) (h : m < n) (x y : Bytes) :
    sequence k m ++ x < sequence k n ++ y := by
  refine ofNat_cons_lt hm hn ?_
  have hlead : m / 64 ^ k ≤ n / 64 ^ k := Nat.div_le_div_right (Nat.le_of_lt h)
  rcases Nat.lt_or_eq_of_le hlead with hlt | heq
  · left
    omega
  · right
    have hm := Nat.div_add_mod m (64 ^ k)
    have hn := Nat.div_add_mod n (64 ^ k)
    rw [heq] at hm
    exact ⟨by omega, continuationBytes_append_lt (by omega) x y⟩

/-- **A lower character decides, whatever follows.** -/
theorem utf8EncodeChar_append_lt {c d : Char} (h : c < d) (x y : Bytes) :
    String.utf8EncodeChar c ++ x < String.utf8EncodeChar d ++ y := by
  obtain ⟨j, hj, hclow, hchigh, hc⟩ := exists_utf8EncodeChar_eq c
  obtain ⟨k, hk, hdlow, hdhigh, hd⟩ := exists_utf8EncodeChar_eq d
  have hcd : c.toNat < d.toNat := h
  rw [hc, hd]
  rcases Nat.lt_trichotomy j k with hlt | rfl | hgt
  · exact ofNat_cons_lt (lead_lt hj hchigh) (lead_lt hk hdhigh) (.inl (lead_lt_lead hlt hk hchigh))
  · exact sequence_append_lt (lead_lt hj hchigh) (lead_lt hk hdhigh) hcd x y
  · have hle : lowest (k + 1) ≤ lowest j := lowest_le_lowest hgt hj
    omega

/-! ### Texts -/

/-- The encoding of a string is the encodings of its characters, one after the other. -/
theorem encode_eq (s : String) : encode s = s.toList.flatMap String.utf8EncodeChar := by
  rw [encode, String.toUTF8_eq_toByteArray, ← String.utf8Encode_toList, List.utf8Encode,
    List.toList_data_toByteArray]

/-- Encoding keeps the order of two lists of characters. -/
theorem flatMap_utf8EncodeChar_lt {as bs : List Char} (h : as < bs) :
    as.flatMap String.utf8EncodeChar < bs.flatMap String.utf8EncodeChar := by
  induction h with
  | @nil b bs =>
    obtain ⟨k, -, -, -, hb⟩ := exists_utf8EncodeChar_eq b
    rw [List.flatMap_cons, hb]
    exact List.nil_lt_cons _ _
  | rel h => exact utf8EncodeChar_append_lt h _ _
  | cons _ ih => exact List.append_left_lt ih

/-- **The order of texts is the order of their bytes.** -/
theorem precedes_iff {s t : String} : Precedes s t ↔ s < t := by
  have hforward : ∀ {s t : String}, s < t → Precedes s t := by
    intro s t h
    rw [Precedes, encode_eq, encode_eq]
    exact flatMap_utf8EncodeChar_lt (String.lt_iff.1 h)
  refine ⟨fun h => ?_, hforward⟩
  by_contra hnot
  by_cases hgt : t < s
  · exact List.lt_asymm h (hforward hgt)
  · obtain rfl := Std.Trichotomous.trichotomous (r := fun a b : String => a < b) s t hnot hgt
    exact List.lt_irrefl _ h

end Utf8
end UsbGadget
