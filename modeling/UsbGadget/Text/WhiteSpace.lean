/-
# White space

The characters with the Unicode property `White_Space`, and the text between the
white space at its two ends.

* `exists_eq_append_trimList`: what is taken off at the two ends is white space;
* `trimList_append`: white space around a text that does not start or end in any is taken off.
-/

namespace UsbGadget
namespace WhiteSpace

/-- The ranges of code points with the property `White_Space`, ends included. -/
def ranges : List (Nat × Nat) :=
  [(0x09, 0x0d), (0x20, 0x20), (0x85, 0x85), (0xa0, 0xa0), (0x1680, 0x1680), (0x2000, 0x200a),
    (0x2028, 0x2029), (0x202f, 0x202f), (0x205f, 0x205f), (0x3000, 0x3000)]

/-- Whether a character is white space. -/
def isWhite (c : Char) : Bool := ranges.any fun r => r.1 ≤ c.toNat && c.toNat ≤ r.2

/-- The characters without the white space before the first and after the last other one. -/
def trimList (cs : List Char) : List Char :=
  ((cs.dropWhile isWhite).reverse.dropWhile isWhite).reverse

/-- The text without the white space at its two ends. -/
def trim (s : String) : String := String.ofList (trimList s.toList)

/-- White space and nothing else. -/
def Blank (cs : List Char) : Prop := ∀ c ∈ cs, isWhite c = true

/-- White space in front of something that is none is dropped. -/
theorem dropWhile_isWhite_append {blank rest : List Char} (hblank : Blank blank)
    (hrest : rest.head?.any isWhite = false) :
    (blank ++ rest).dropWhile isWhite = rest := by
  rw [List.dropWhile_append_of_pos hblank]
  cases rest with
  | nil => rfl
  | cons c rest => exact List.dropWhile_cons_of_neg (Bool.eq_false_iff.1 hrest)

/-- What is dropped in front is white space. -/
theorem exists_eq_append_dropWhile (cs : List Char) :
    ∃ blank, Blank blank ∧ cs = blank ++ cs.dropWhile isWhite :=
  ⟨cs.takeWhile isWhite, List.all_eq_true.1 List.all_takeWhile,
    List.takeWhile_append_dropWhile.symm⟩

/-- What trimming takes away at both ends is white space. -/
theorem exists_eq_append_trimList (cs : List Char) :
    ∃ before after, Blank before ∧ Blank after ∧ cs = before ++ trimList cs ++ after := by
  obtain ⟨before, hbefore, hcs⟩ := exists_eq_append_dropWhile cs
  obtain ⟨after, hafter, hrest⟩ := exists_eq_append_dropWhile (cs.dropWhile isWhite).reverse
  refine ⟨before, after.reverse, hbefore, fun c hc => hafter c (List.mem_reverse.1 hc), ?_⟩
  rw [trimList, List.append_assoc, ← List.reverse_append, ← hrest, List.reverse_reverse, ← hcs]

/-- White space around a core with none at its ends is trimmed off. -/
theorem trimList_append {before core after : List Char} (hbefore : Blank before)
    (hafter : Blank after) (hne : core ≠ []) (hfirst : core.head?.any isWhite = false)
    (hlast : core.getLast?.any isWhite = false) :
    trimList (before ++ core ++ after) = core := by
  have hhead : (core ++ after).head?.any isWhite = false := by
    cases core with
    | nil => exact absurd rfl hne
    | cons c rest => exact hfirst
  have hreverse : Blank after.reverse := fun c hc => hafter c (List.mem_reverse.1 hc)
  have hend : core.reverse.head?.any isWhite = false := by
    rwa [List.head?_reverse]
  rw [trimList, List.append_assoc, dropWhile_isWhite_append hbefore hhead, List.reverse_append,
    dropWhile_isWhite_append hreverse hend, List.reverse_reverse]

end WhiteSpace
end UsbGadget
