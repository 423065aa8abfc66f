/-
# What a string table holds

Registering gives every string an index, equal strings the same one, for as long
as there is room.  So after any sequence of strings the table holds the first 255
different ones in the order in which they came (`StringTable.Holds.register`),
and the index of each is its place there, counted from 1; all others have the
last index.

A string has its index from the moment when it is registered for the first time,
when only part of the table is there.  That part stays in front
(`StringTable.prefix_register`), and once the table is full nothing is added, so
the place of a string that was registered never changes
(`StringTable.Holds.place_registerEach`).
-/

import Mathlib.Data.List.Infix
import Mathlib.Data.List.Nodup
import Mathlib.Tactic.SplitIfs
import UsbGadget.StringTable

namespace UsbGadget
namespace StringTable

variable {t : StringTable} {s : String} {calls : List String}

/-! ### What registering does -/

/-- A string is in the table, or it is new and there is room, or the table is full. -/
theorem register_cases (t : StringTable) (s : String) :
    (∃ position, t.strings[position]? = some s ∧
        t.register s = (UInt8.ofNat (position + 1), t)) ∨
      s ∉ t.strings ∧ (t.strings.length < capacity ∧
          t.register s = (UInt8.ofNat (t.strings.length + 1), ⟨t.strings ++ [s]⟩) ∨
        capacity ≤ t.strings.length ∧ t.register s = (UInt8.ofNat capacity, t)) := by
  unfold register
  cases hfind : t.strings.findIdx? (· = s) with
  | some position =>
    obtain ⟨hposition, hs, -⟩ := List.findIdx?_eq_some_iff_getElem.1 hfind
    left
    refine ⟨position, ?_, rfl⟩
    rw [List.getElem?_eq_getElem hposition, of_decide_eq_true hs]
  | none =>
    right
    refine ⟨?_, ?_⟩
    · intro hs
      exact of_decide_eq_false (List.findIdx?_eq_none_iff.1 hfind s hs) rfl
    · dsimp only
      split_ifs with hroom
      · exact .inl ⟨hroom, rfl⟩
      · exact .inr ⟨Nat.le_of_not_lt hroom, rfl⟩

/-- Registering a string only ever adds to the end of the table. -/
theorem prefix_register (t : StringTable) (s : String) :
    t.strings <+: (t.register s).2.strings := by
  rcases t.register_cases s with ⟨position, -, h⟩ | ⟨-, ⟨-, h⟩ | ⟨-, h⟩⟩
  · rw [h]
  · rw [h]
    exact List.prefix_append _ _
  · rw [h]

/-- Registering a string makes no string occur twice. -/
theorem nodup_register (h : t.strings.Nodup) (s : String) : (t.register s).2.strings.Nodup := by
  rcases t.register_cases s with ⟨position, -, hs⟩ | ⟨hnew, ⟨-, hs⟩ | ⟨-, hs⟩⟩
  · rwa [hs]
  · rw [hs]
    exact List.nodup_append.2 ⟨h, List.nodup_singleton s, fun a ha b hb => by
      rintro rfl
      exact hnew (List.mem_singleton.1 hb ▸ ha)⟩
  · rwa [hs]

/-! ### Many strings, one after the other -/

/-- Registers strings one after the other: the index of each, and the table at the end. -/
def registerEach (t : StringTable) : List String → List UInt8 × StringTable
  | [] => ([], t)
  | s :: rest =>
    let (index, t) := t.register s
    let (indices, t) := t.registerEach rest
    (index :: indices, t)

/-- A sequence of registrations only ever adds to the end of the table. -/
theorem prefix_registerEach (t : StringTable) (later : List String) :
    t.strings <+: (t.registerEach later).2.strings := by
  induction later generalizing t with
  | nil => exact List.prefix_rfl
  | cons s later ih => exact (t.prefix_register s).trans (ih (t.register s).2)

/-- The table holds the first 255 different strings of a sequence, in the order in which they
came. -/
structure Holds (t : StringTable) (calls : List String) : Prop where
  strings : t.strings = calls.eraseDups.take capacity
  nodup : t.strings.Nodup

/-- The empty table is the one of no calls. -/
theorem holds_nil : Holds {} [] := ⟨rfl, List.nodup_nil⟩

/-- The distinct strings after one call more: a string called before adds nothing, a new one comes
last. -/
theorem eraseDups_concat (calls : List String) (s : String) :
    (calls ++ [s]).eraseDups = if s ∈ calls then calls.eraseDups else calls.eraseDups ++ [s] := by
  rw [List.eraseDups_append]
  split_ifs with hs
  · simp [List.removeAll, hs]
  · simp [List.removeAll, List.eraseDups_cons, hs]

namespace Holds

/-- A table that calls built never holds more strings than fit. -/
theorem length_le (h : t.Holds calls) : t.strings.length ≤ capacity := by
  rw [h.strings]
  exact List.length_take_le ..

/-- A table that is not full holds all strings that were registered. -/
theorem eq_eraseDups (h : t.Holds calls) (hroom : t.strings.length < capacity) :
    t.strings = calls.eraseDups := by
  have hstrings := h.strings
  rw [hstrings, List.length_take] at hroom
  rwa [List.take_of_length_le (by omega)] at hstrings

/-- A string that was registered and is not in the table found it full. -/
theorem length_eq (h : t.Holds calls) (hs : s ∈ calls) (hnot : s ∉ t.strings) :
    t.strings.length = capacity := by
  by_contra hne
  have hlt : t.strings.length < capacity := Nat.lt_of_le_of_ne h.length_le hne
  rw [h.eq_eraseDups hlt, List.mem_eraseDups] at hnot
  exact hnot hs

/-- One call more takes the table of some calls to the table of those calls and this one. -/
theorem register (h : t.Holds calls) (s : String) : (t.register s).2.Holds (calls ++ [s]) := by
  refine ⟨?_, nodup_register h.nodup s⟩
  rw [eraseDups_concat]
  rcases t.register_cases s with ⟨position, hposition, heq⟩ | ⟨hnew, ⟨hroom, heq⟩ | ⟨hfull, heq⟩⟩
  · have hs : s ∈ calls := by
      have hmem := List.mem_of_getElem? hposition
      rw [h.strings] at hmem
      exact List.mem_eraseDups.1 (List.mem_of_mem_take hmem)
    rw [heq, if_pos hs, h.strings]
  · have hall := h.eq_eraseDups hroom
    have hs : s ∉ calls := fun hs => hnew (hall ▸ List.mem_eraseDups.2 hs)
    rw [heq, if_neg hs, ← hall, List.take_of_length_le]
    rw [List.length_append]
    exact hroom
  · have hlength : capacity ≤ calls.eraseDups.length := by
      rw [h.strings, List.length_take] at hfull
      omega
    rw [heq, h.strings]
    split_ifs
    · rfl
    · rw [List.take_append_of_le_length hlength]

/-- A sequence of calls takes the table of some calls to the table of all of them. -/
theorem registerEach (h : t.Holds calls) (later : List String) :
    (t.registerEach later).2.Holds (calls ++ later) := by
  induction later generalizing t calls with
  | nil => rwa [List.append_nil]
  | cons s later ih =>
    have hrest := ih (h.register s)
    rwa [List.append_assoc] at hrest

end Holds

/-! ### The place of a string -/

/-- The place of a string in the table, counted from 1, or the last index if it is not there. -/
def place (t : StringTable) (s : String) : Nat :=
  if s ∈ t.strings then t.strings.idxOf s + 1 else capacity

/-- No place is zero: the index 0 is kept for the absence of a string. -/
theorem place_pos (t : StringTable) (s : String) : 0 < t.place s := by
  unfold place
  split_ifs
  · exact Nat.succ_pos _
  · exact Nat.succ_pos _

/-- The string at a position of a table has the place one above that position. -/
theorem place_of_getElem? (h : t.strings.Nodup) {position : Nat}
    (hposition : t.strings[position]? = some s) : t.place s = position + 1 := by
  obtain ⟨hlt, rfl⟩ := List.getElem?_eq_some_iff.1 hposition
  rw [place, if_pos (List.getElem_mem hlt), h.idxOf_getElem]

namespace Holds

/-- A string has its place from the moment when it is registered. -/
theorem place_registerEach (h : t.Holds calls) (hs : s ∈ calls) (later : List String) :
    (t.registerEach later).2.place s = t.place s := by
  have hgrows := t.prefix_registerEach later
  by_cases hmem : s ∈ t.strings
  · rw [place, place, if_pos hmem, if_pos (hgrows.subset hmem), hgrows.idxOf_eq_of_mem hmem]
  · -- The table is full, so it is the one at the end.
    have hend : t.strings = (t.registerEach later).2.strings := by
      refine hgrows.eq_of_length_le ?_
      rw [h.length_eq hs hmem]
      exact (h.registerEach later).length_le
    rw [place, place, hend]

/-- The index that registering gives is the place. -/
theorem toNat_register (h : t.Holds calls) (s : String) :
    (t.register s).1.toNat = (t.register s).2.place s := by
  have htoNat : ∀ {n : Nat}, n ≤ capacity → (UInt8.ofNat n).toNat = n := fun hn =>
    UInt8.toNat_ofNat_of_lt' (Nat.lt_succ_of_le hn)
  rcases t.register_cases s with ⟨position, hposition, heq⟩ | ⟨hnew, ⟨hroom, heq⟩ | ⟨hfull, heq⟩⟩
  · have hlt := (List.getElem?_eq_some_iff.1 hposition).1
    rw [heq, place_of_getElem? h.nodup hposition, htoNat (Nat.le_trans hlt h.length_le)]
  · have hnodup := nodup_register h.nodup s
    rw [heq] at hnodup ⊢
    rw [place_of_getElem? hnodup List.getElem?_concat_length, htoNat hroom]
  · rw [heq, place, if_neg hnew, htoNat (Nat.le_refl _)]

/-- The indices that a sequence of calls returns are the places that the final table gives its
strings. -/
theorem map_toNat_registerEach (h : t.Holds calls) (later : List String) :
    (t.registerEach later).1.map (·.toNat) = later.map (t.registerEach later).2.place := by
  induction later generalizing t calls with
  | nil => rfl
  | cons s later ih =>
    have hs : s ∈ calls ++ [s] := List.mem_append_right _ (List.mem_singleton_self s)
    refine congr (congrArg List.cons ?_) (ih (h.register s))
    exact (h.toNat_register s).trans ((h.register s).place_registerEach hs later).symm

end Holds

/-! ### What an index finds -/

/-- An index within the table names a string, and names it in every longer table as well. -/
theorem exists_get?_eq {index : UInt8} (hpos : 1 ≤ index.toNat)
    (hle : index.toNat ≤ t.strings.length) :
    ∃ s, t.strings[index.toNat - 1]? = some s ∧
      ∀ t' : StringTable, t.strings <+: t'.strings → t'.get? index = some s := by
  have hlt : index.toNat - 1 < t.strings.length := by omega
  refine ⟨_, List.getElem?_eq_getElem hlt, fun t' hgrows => ?_⟩
  have hne : index ≠ 0 := by
    rintro rfl
    exact absurd hpos (by decide)
  obtain ⟨rest, hrest⟩ := hgrows
  rw [get?, if_neg hne, ← hrest, List.getElem?_append_left hlt, List.getElem?_eq_getElem hlt,
    Option.some_or]

/-- An index beyond the table falls back to the first string. -/
theorem get?_of_lt {index : UInt8} (hlt : t.strings.length < index.toNat) :
    t.get? index = t.strings.head? := by
  have hne : index ≠ 0 := by
    rintro rfl
    exact absurd hlt (Nat.not_lt_zero _)
  rw [get?, if_neg hne, List.getElem?_eq_none (by omega), Option.none_or]

/-- **The law of a string table.**  After any sequence of strings the table holds the first 255
different ones in the order in which they came.  Each string was given its place there, counted
from 1, or 255 if it is not there, and none was given 0.  Index 0 finds nothing; an index within the
table finds the string at its place, and goes on to find it whatever is registered later; and an
index past the end finds the first string, if there is one. -/
theorem registerEach_law (calls : List String) :
    ∃ (indices : List UInt8) (t : StringTable), registerEach {} calls = (indices, t) ∧
      t.strings = calls.eraseDups.take 255 ∧
      indices.map (·.toNat) =
        calls.map (fun s => if s ∈ t.strings then t.strings.idxOf s + 1 else 255) ∧
      0 ∉ indices ∧
      t.get? 0 = none ∧
      (∀ index : UInt8, 1 ≤ index.toNat → index.toNat ≤ t.strings.length →
        ∃ s, t.strings[index.toNat - 1]? = some s ∧ t.get? index = some s ∧
          ∀ later, (t.registerEach later).2.get? index = some s) ∧
      ∀ index : UInt8, t.strings.length < index.toNat → t.get? index = t.strings.head? := by
  have hholds := holds_nil.registerEach calls
  have hindices := holds_nil.map_toNat_registerEach calls
  refine ⟨_, _, rfl, hholds.strings, hindices, ?_, rfl, ?_, fun index => get?_of_lt⟩
  · intro hzero
    have hmem := List.mem_map_of_mem (f := UInt8.toNat) hzero
    rw [hindices] at hmem
    obtain ⟨s, -, hs⟩ := List.mem_map.1 hmem
    exact absurd hs (Nat.ne_of_gt (place_pos _ s))
  · intro index hpos hle
    obtain ⟨s, hs, hfinds⟩ := exists_get?_eq hpos hle
    exact ⟨s, hs, hfinds _ List.prefix_rfl, fun later => hfinds _ (prefix_registerEach _ later)⟩

end StringTable
end UsbGadget
