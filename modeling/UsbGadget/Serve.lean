/-
# Serving inside a list

A request that reaches a list of entities is served by one of them, the one at a
position or the first that can.  The answer is that of the whole list, in which
all others stay as they were.

* `serveAt_eq` gives the answer of the element at a position, `serveFirst_eq` that of the first that
  can serve;
* `Served` is what both ways have in common: one element served, and it was replaced by what it
  became;
* `outcome_serveAt` and `outcome_serveFirst` say which element that was.
-/

import UsbGadget.Link

namespace UsbGadget

variable {α : Type}

/-- Lets the element at a position serve, if it is there and can. -/
def serveAt (serve : α → Option (Answer α)) : Nat → List α → Option (Answer (List α))
  | _, [] => none
  | 0, a :: as => (serve a).map (Answer.map (· :: as))
  | i + 1, a :: as => (serveAt serve i as).map (Answer.map (a :: ·))

/-- Lets the first element that can serve do so. -/
def serveFirst (serve : α → Option (Answer α)) : List α → Option (Answer (List α))
  | [] => none
  | a :: as =>
    match serve a with
    | some answer => some (answer.map (· :: as))
    | none => (serveFirst serve as).map (Answer.map (a :: ·))

/-- The answer of a list is that of one element, which what it became takes the place of. -/
def Served (serve : α → Option (Answer α)) (as : List α) (answer : Answer (List α)) : Prop :=
  ∃ (n : Nat) (a : α) (b : Answer α),
    as[n]? = some a ∧ serve a = some b ∧ answer = b.map (as.set n ·)

/-- Serving at a position is serving what stands there and putting it back. -/
theorem serveAt_eq (serve : α → Option (Answer α)) (n : Nat) (as : List α) :
    serveAt serve n as = (as[n]?).bind fun a => (serve a).map (Answer.map (as.set n ·)) := by
  induction as generalizing n with
  | nil => cases n <;> rfl
  | cons a as ih =>
    cases n with
    | zero => rfl
    | succ n =>
      rw [serveAt, ih, List.getElem?_cons_succ]
      cases as[n]? with
      | none => rfl
      | some x =>
        rw [Option.bind_some, Option.bind_some, Option.map_map]
        rfl

/-- Of a list of elements of which some can serve, the first of these serves. -/
theorem serveFirst_eq {κ : Type} {get? : α → Option κ} {as : List α} {k : κ}
    (h : as.findSome? get? = some k) :
    ∃ (n : Nat) (a : α), as[n]? = some a ∧ get? a = some k ∧
      ∀ serve : α → Option (Answer α), (∀ a, serve a = none ↔ get? a = none) →
        serveFirst serve as = (serve a).map (Answer.map (as.set n ·)) := by
  induction as with
  | nil => cases h
  | cons a as ih =>
    rw [List.findSome?_cons] at h
    cases ha : get? a with
    | none =>
      rw [ha] at h
      obtain ⟨n, x, hx, hk, hserve⟩ := ih h
      refine ⟨n + 1, x, hx, hk, fun serve hget => ?_⟩
      rw [serveFirst, (hget a).2 ha, hserve serve hget, Option.map_map]
      rfl
    | some l =>
      rw [ha] at h
      refine ⟨0, a, rfl, ha.trans h, fun serve hget => ?_⟩
      rw [serveFirst]
      cases hb : serve a with
      | none =>
        rw [(hget a).1 hb] at ha
        cases ha
      | some b => rfl

/-- An answer at a position is one that serves the list. -/
theorem served_of_serveAt {serve : α → Option (Answer α)} {n : Nat} {as : List α}
    {answer : Answer (List α)} (h : serveAt serve n as = some answer) : Served serve as answer := by
  rw [serveAt_eq] at h
  obtain ⟨a, ha, h⟩ := Option.bind_eq_some_iff.1 h
  obtain ⟨b, hb, rfl⟩ := Option.map_eq_some_iff.1 h
  exact ⟨n, a, b, ha, hb, rfl⟩

/-- An answer of the first that serves is one that serves the list. -/
theorem served_of_serveFirst {serve : α → Option (Answer α)} {as : List α}
    {answer : Answer (List α)} (h : serveFirst serve as = some answer) :
    Served serve as answer := by
  induction as generalizing answer with
  | nil => cases h
  | cons a as ih =>
    rw [serveFirst] at h
    split at h
    · next b hb =>
      cases h
      exact ⟨0, a, b, rfl, hb, rfl⟩
    · obtain ⟨rest, hrest, rfl⟩ := Option.map_eq_some_iff.1 h
      obtain ⟨n, x, b, hx, hb, rfl⟩ := ih hrest
      exact ⟨n + 1, x, b, hx, hb, rfl⟩

/-- The outcome at a position is the outcome of what stands there. -/
theorem outcome_serveAt (serve : α → Option (Answer α)) (n : Nat) (as : List α) :
    (serveAt serve n as).map Answer.outcome =
      (as[n]?).bind fun a => (serve a).map Answer.outcome := by
  rw [serveAt_eq, Option.map_bind]
  congr 1
  funext a
  exact Option.map_map ..

/-- The outcome of the first that serves is the first outcome there is. -/
theorem outcome_serveFirst (serve : α → Option (Answer α)) (as : List α) :
    (serveFirst serve as).map Answer.outcome =
      as.findSome? fun a => (serve a).map Answer.outcome := by
  induction as with
  | nil => rfl
  | cons a as ih =>
    rw [serveFirst, List.findSome?_cons]
    cases serve a with
    | none => rw [Option.map_none, ← ih, Option.map_map]; rfl
    | some b => rfl

/-- Putting back what stands at a position changes nothing. -/
theorem set_eq_self {as : List α} {n : Nat} {a : α} (h : as[n]? = some a) : as.set n a = as := by
  obtain ⟨hn, rfl⟩ := List.getElem?_eq_some_iff.1 h
  exact List.set_getElem_self hn

/-- An element with the same image leaves the images of the list as they are. -/
theorem map_set_eq_map {β : Type} {f : α → β} {as : List α} {n : Nat} {a b : α}
    (ha : as[n]? = some a) (hf : f b = f a) : (as.set n b).map f = as.map f := by
  have hfa : (as.map f)[n]? = some (f a) := by rw [List.getElem?_map, ha, Option.map_some]
  rw [List.map_set, hf, set_eq_self hfa]

namespace Served

variable {serve : α → Option (Answer α)} {as : List α} {answer : Answer (List α)}

/-- What every element keeps when it serves, the whole list keeps. -/
theorem map_eq {β : Type} {f : α → β} (h : Served serve as answer)
    (hf : ∀ a b, serve a = some b → f b.state = f a) : answer.state.map f = as.map f := by
  obtain ⟨n, a, b, ha, hb, rfl⟩ := h
  exact map_set_eq_map ha (hf a b hb)

end Served
end UsbGadget
