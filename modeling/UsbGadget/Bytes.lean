/-
# Bytes and little-endian words

A descriptor, a SETUP packet and a data stage are lists of bytes; numbers wider
than a byte are written low byte first.  A count that is written into one byte
is taken modulo 256 (`countByte`) and a total that is written into two bytes is
taken modulo 65536 (`totalWord`): the fields wrap, the data they count does not.

`word` and `ofWord` are inverse to each other, and the four bytes that `long` joins are
those that `ofLong` writes.  Where all parts of a string have one length, each is found
at a multiple of it (`drop_flatMap`).
-/

namespace UsbGadget

/-- A string of bytes as it goes over the bus. -/
abbrev Bytes := List UInt8

namespace Bytes

/-- The two bytes of a 16-bit word, low byte first. -/
def ofWord (w : UInt16) : Bytes := [w.toUInt8, (w >>> 8).toUInt8]

/-- The four bytes of a 32-bit word, low byte first. -/
def ofLong (w : UInt32) : Bytes :=
  [w.toUInt8, (w >>> 8).toUInt8, (w >>> 16).toUInt8, (w >>> 24).toUInt8]

/-- The 16-bit word with the given low and high byte. -/
def word (low high : UInt8) : UInt16 := low.toUInt16 ||| (high.toUInt16 <<< 8)

/-- The 32-bit word with the given bytes, low byte first. -/
def long (b₀ b₁ b₂ b₃ : UInt8) : UInt32 :=
  b₀.toUInt32 ||| (b₁.toUInt32 <<< 8) ||| (b₂.toUInt32 <<< 16) ||| (b₃.toUInt32 <<< 24)

/-- A count as a one-byte field holds it. -/
def countByte (n : Nat) : UInt8 := UInt8.ofNat n

/-- A length as a two-byte field holds it. -/
def totalWord (n : Nat) : UInt16 := UInt16.ofNat n

@[simp] theorem length_ofWord (w : UInt16) : (ofWord w).length = 2 := rfl

/-- Bits that do not overlap are joined by addition. -/
theorem or_shiftLeft {n k : Nat} (h : n < 1 <<< k) (m : Nat) : n ||| m <<< k = n + m <<< k := by
  rw [Nat.one_shiftLeft] at h
  rw [Nat.or_comm, Nat.shiftLeft_eq, Nat.mul_comm, ← Nat.two_pow_add_eq_or_of_lt h, Nat.add_comm]

/-- A word is its low byte and 256 times its high byte. -/
theorem toNat_word (low high : UInt8) :
    (word low high).toNat = low.toNat + 256 * high.toNat := by
  have hl := low.toNat_lt
  have hh := high.toNat_lt
  have h : high.toNat <<< 8 % 2 ^ 16 = high.toNat <<< 8 := by
    rw [Nat.shiftLeft_eq]; omega
  rw [word, UInt16.toNat_or, UInt16.toNat_shiftLeft, UInt8.toNat_toUInt16, UInt8.toNat_toUInt16]
  change low.toNat ||| high.toNat <<< 8 % 2 ^ 16 = low.toNat + 256 * high.toNat
  rw [h, or_shiftLeft (k := 8) hl, Nat.shiftLeft_eq]
  omega

/-- The low byte of a word is the first one. -/
theorem toNat_low (w : UInt16) : w.toUInt8.toNat = w.toNat % 256 := UInt16.toNat_toUInt8 w

/-- The high byte of a word is the second one. -/
theorem toNat_high (w : UInt16) : (w >>> 8).toUInt8.toNat = w.toNat / 256 := by
  have hw := w.toNat_lt
  simp only [UInt16.toNat_toUInt8, UInt16.toNat_shiftRight, UInt16.reduceToNat,
    Nat.shiftRight_eq_div_pow, Nat.reduceMod, Nat.reducePow] at *
  omega

/-- The two bytes of a word make up the word. -/
theorem word_ofWord (w : UInt16) : word w.toUInt8 (w >>> 8).toUInt8 = w := by
  apply UInt16.toNat_inj.mp
  rw [toNat_word, toNat_low, toNat_high]
  omega

/-- The word of two bytes is written as these bytes. -/
theorem ofWord_word (low high : UInt8) : ofWord (word low high) = [low, high] := by
  have hl := low.toNat_lt
  have hh := high.toNat_lt
  have hlow : (word low high).toUInt8 = low := by
    apply UInt8.toNat_inj.mp
    simp only [UInt16.toNat_toUInt8, toNat_word] at *
    omega
  have hhigh : (word low high >>> 8).toUInt8 = high := by
    apply UInt8.toNat_inj.mp
    simp only [UInt16.toNat_toUInt8, UInt16.toNat_shiftRight, UInt16.reduceToNat,
      Nat.shiftRight_eq_div_pow, toNat_word, Nat.reduceMod, Nat.reducePow] at *
    omega
  rw [ofWord, hlow, hhigh]

/-- A long word is the sum of its bytes, each at its own place. -/
theorem toNat_long (b₀ b₁ b₂ b₃ : UInt8) :
    (long b₀ b₁ b₂ b₃).toNat =
      b₀.toNat + 256 * b₁.toNat + 65536 * b₂.toNat + 16777216 * b₃.toNat := by
  have h₀ := b₀.toNat_lt
  have h₁ := b₁.toNat_lt
  have h₂ := b₂.toNat_lt
  have h₃ := b₃.toNat_lt
  have e₁ : b₁.toNat <<< 8 % 2 ^ 32 = b₁.toNat <<< 8 := by rw [Nat.shiftLeft_eq]; omega
  have e₂ : b₂.toNat <<< 16 % 2 ^ 32 = b₂.toNat <<< 16 := by rw [Nat.shiftLeft_eq]; omega
  have e₃ : b₃.toNat <<< 24 % 2 ^ 32 = b₃.toNat <<< 24 := by rw [Nat.shiftLeft_eq]; omega
  have l₁ : b₀.toNat + b₁.toNat <<< 8 < 1 <<< 16 := by omega
  have l₂ : b₀.toNat + b₁.toNat <<< 8 + b₂.toNat <<< 16 < 1 <<< 24 := by omega
  rw [long, UInt32.toNat_or, UInt32.toNat_or, UInt32.toNat_or, UInt32.toNat_shiftLeft,
    UInt32.toNat_shiftLeft, UInt32.toNat_shiftLeft, UInt8.toNat_toUInt32, UInt8.toNat_toUInt32,
    UInt8.toNat_toUInt32, UInt8.toNat_toUInt32]
  change b₀.toNat ||| b₁.toNat <<< 8 % 2 ^ 32 ||| b₂.toNat <<< 16 % 2 ^ 32 |||
    b₃.toNat <<< 24 % 2 ^ 32 = _
  rw [e₁, e₂, e₃, or_shiftLeft (k := 8) h₀, or_shiftLeft l₁, or_shiftLeft l₂]
  omega

/-- The long word of four bytes is written as these bytes. -/
theorem ofLong_long (b₀ b₁ b₂ b₃ : UInt8) : ofLong (long b₀ b₁ b₂ b₃) = [b₀, b₁, b₂, b₃] := by
  have h₀ := b₀.toNat_lt
  have h₁ := b₁.toNat_lt
  have h₂ := b₂.toNat_lt
  have h₃ := b₃.toNat_lt
  simp only [ofLong, List.cons.injEq, and_true]
  refine ⟨?_, ?_, ?_, ?_⟩ <;> apply UInt8.toNat_inj.mp <;>
    simp only [UInt32.toNat_toUInt8, UInt32.toNat_shiftRight, UInt32.reduceToNat,
      Nat.shiftRight_eq_div_pow, toNat_long, Nat.reduceMod, Nat.reducePow] at * <;> omega

/-! ### Parts of one length -/

/-- Parts of length `n` make up a string of `n` bytes for each part. -/
theorem length_flatMap {α : Type} {part : α → Bytes} {n : Nat} (h : ∀ a, (part a).length = n)
    (as : List α) : (as.flatMap part).length = n * as.length := by
  induction as with
  | nil => rfl
  | cons a as ih =>
    rw [List.flatMap_cons, List.length_append, h, ih, List.length_cons, Nat.mul_succ, Nat.add_comm]

/-- Parts of one length stand at its multiples. -/
theorem drop_flatMap {α : Type} {part : α → Bytes} {n : Nat} (h : ∀ a, (part a).length = n)
    (as : List α) (i : Nat) : (as.flatMap part).drop (n * i) = (as.drop i).flatMap part := by
  induction as generalizing i with
  | nil => rw [List.flatMap_nil, List.drop_nil, List.drop_nil, List.flatMap_nil]
  | cons a as ih =>
    cases i with
    | zero => rfl
    | succ i =>
      rw [Nat.mul_succ, Nat.add_comm, ← List.drop_drop, List.flatMap_cons, List.drop_left' (h a),
        ih, List.drop_succ_cons]

end Bytes
end UsbGadget
