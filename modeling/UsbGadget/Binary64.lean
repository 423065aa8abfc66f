/-
# Whole numbers as doubles

A double keeps 53 significant bits.  `round n` is the double nearest to the whole
number `n`, and of two that are equally near the one whose last bit is 0; it is
computed as if exponents had no bound.  `overflow` is the least number that no
finite double is nearest to.

* `round_of_lt`: a number of at most 53 bits is a double itself;
* `round_le`, `le_round`: what is lost is at most half a unit in the last place.
-/

namespace UsbGadget
namespace Binary64

/-- The significant bits of a double. -/
def precision : Nat := 53

/-- The distance between the doubles around `n`. -/
def unit (n : Nat) : Nat := 1 <<< (n.log2 + 1 - precision)

/-- The double that is nearest to `n`, the even one of two. -/
def round (n : Nat) : Nat :=
  let u := unit n
  let q := n / u
  let r := n % u
  if 2 * r < u ∨ (2 * r = u ∧ q % 2 = 0) then q * u else (q + 1) * u

/-- The least number that rounds to no finite double: half a unit above the largest one. -/
def overflow : Nat := 1 <<< 1024 - 1 <<< 970

/-- The distance of two neighbours is positive. -/
theorem unit_pos (n : Nat) : 0 < unit n := by
  rw [unit, Nat.one_shiftLeft]
  exact Nat.two_pow_pos _

/-- A number of at most 53 bits is its own nearest double. -/
theorem round_of_lt {n : Nat} (h : n < 1 <<< precision) : round n = n := by
  rw [Nat.one_shiftLeft] at h
  have hu : unit n = 1 := by
    have : n.log2 + 1 - precision = 0 := by
      by_cases hn : n = 0
      · subst hn; rfl
      · have := (Nat.log2_lt hn).2 h
        omega
    rw [unit, this, Nat.shiftLeft_zero]
  simp [round, hu, Nat.mod_one]

/-- Rounding goes up by at most half the distance. -/
theorem round_le (n : Nat) : 2 * round n ≤ 2 * n + unit n := by
  have h := Nat.div_add_mod' n (unit n)
  have hlt := Nat.mod_lt n (unit_pos n)
  simp only [round]
  split
  · omega
  · rw [Nat.add_mul]; omega

/-- Rounding goes down by at most half the distance. -/
theorem le_round (n : Nat) : 2 * n ≤ 2 * round n + unit n := by
  have h := Nat.div_add_mod' n (unit n)
  have hlt := Nat.mod_lt n (unit_pos n)
  simp only [round]
  split
  · omega
  · rw [Nat.add_mul]; omega

end Binary64
end UsbGadget
