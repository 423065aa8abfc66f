/-
# The last write

Events that each write a value or nothing, and what is there when they are over: the
value that the last of them wrote which wrote one (`lastWrite`).  That is what writing
one after the other leaves (`foldl_write`), and what a search from the end finds
(`findSome?_reverse_eq_some_iff`).
-/

namespace UsbGadget

/-- A search from the end stops where nothing is found behind. -/
theorem findSome?_reverse_eq_some_iff {α β : Type} {write? : α → Option β} {events : List α}
    {b : β} :
    events.reverse.findSome? write? = some b ↔
      ∃ before x later, events = before ++ x :: later ∧ write? x = some b ∧
        ∀ y ∈ later, write? y = none := by
  rw [List.findSome?_eq_some_iff]
  constructor
  · rintro ⟨later, x, before, hevents, hx, hlater⟩
    refine ⟨before.reverse, x, later.reverse, ?_, hx, fun y hy => hlater y (List.mem_reverse.1 hy)⟩
    rw [List.reverse_eq_iff.1 hevents, List.reverse_append, List.reverse_cons, List.append_assoc,
      List.singleton_append]
  · rintro ⟨before, x, later, rfl, hx, hlater⟩
    refine ⟨later.reverse, x, before.reverse, ?_, hx, fun y hy => hlater y (List.mem_reverse.1 hy)⟩
    rw [List.reverse_append, List.reverse_cons, List.append_assoc, List.singleton_append]

/-- The value that the last of the events writes which writes one; the initial value, if none
does. -/
def lastWrite {α β : Type} (write? : α → Option β) (initial : β) (events : List α) : β :=
  (events.reverse.findSome? write?).getD initial

/-- Writing one after the other leaves what was written last. -/
theorem foldl_write {α β : Type} (write? : α → Option β) (initial : β) (events : List α) :
    events.foldl (fun b x => (write? x).getD b) initial = lastWrite write? initial events := by
  induction events generalizing initial with
  | nil => rfl
  | cons x events ih =>
    rw [List.foldl_cons, ih, lastWrite, lastWrite, List.reverse_cons, List.findSome?_append]
    cases events.reverse.findSome? write? with
    | none => cases h : write? x <;> simp [h]
    | some b => rfl

/-- Later writes have the last word over an earlier one. -/
theorem lastWrite_cons {α β : Type} (write? : α → Option β) (initial : β) (x : α)
    (events : List α) :
    lastWrite write? initial (x :: events) = lastWrite write? ((write? x).getD initial) events := by
  rw [← foldl_write, ← foldl_write, List.foldl_cons]

/-- Events that write nothing leave what was there before. -/
theorem lastWrite_of_forall_eq_none {α β : Type} {write? : α → Option β} {events : List α}
    (h : ∀ x ∈ events, write? x = none) (initial : β) :
    lastWrite write? initial events = initial := by
  have hnone : events.reverse.findSome? write? = none :=
    List.findSome?_eq_none_iff.2 fun x hx => h x (List.mem_reverse.1 hx)
  rw [lastWrite, hnone, Option.getD_none]

/-- A switch that is off at first is on at the end just if an event switches it on and none after it
switches it off. -/
theorem lastWrite_eq_true_iff {α : Type} {write? : α → Option Bool} {events : List α} :
    lastWrite write? false events = true ↔
      ∃ before x later, events = before ++ x :: later ∧ write? x = some true ∧
        ∀ y ∈ later, write? y ≠ some false := by
  unfold lastWrite
  constructor
  · intro h
    cases hfind : events.reverse.findSome? write? with
    | none =>
      rw [hfind] at h
      cases h
    | some on =>
      rw [hfind] at h
      obtain rfl : on = true := h
      obtain ⟨before, x, later, hevents, hx, hlater⟩ := findSome?_reverse_eq_some_iff.1 hfind
      refine ⟨before, x, later, hevents, hx, fun y hy => ?_⟩
      rw [hlater y hy]
      exact (Option.some_ne_none false).symm
  · rintro ⟨before, x, later, rfl, hx, hlater⟩
    rw [List.reverse_append, List.reverse_cons, List.append_assoc, List.findSome?_append]
    cases hfind : later.reverse.findSome? write? with
    | none => rw [Option.none_or, List.findSome?_append, List.findSome?_singleton, hx]; rfl
    | some on =>
      obtain ⟨y, hy, hwrite⟩ := List.exists_of_findSome?_eq_some hfind
      cases on with
      | true => rfl
      | false => exact absurd hwrite (hlater y (List.mem_reverse.1 hy))

end UsbGadget
