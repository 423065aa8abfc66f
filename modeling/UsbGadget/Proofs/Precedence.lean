/-
# The handler that was set last serves

A request table is made from a default in steps, each of which sets the handler of
one code or merges a table of overrides in.  A step writes at most one handler for a
code (`RequestTable.Step.handler?`), and in the entries of the table it replaces
what was there (`find?_apply`).  So after all steps the entry of a code is what was
written last for it (`find?_ofSteps`); look-ups, the codes that are contained, and
what a request runs all follow from the entries.  A device is one merge on top of the
standard requests (`Device.lookup_ofGadget`).

A merge goes through the overrides one by one, the look-up in them stops at the
first; that both see the same handler is because no table has a code twice.
-/

import UsbGadget.Device
import UsbGadget.Proofs.LastWrite

namespace UsbGadget
namespace RequestTable

variable {σ : Type}

/-- One step in making a table.  Overrides have one handler for each of their codes. -/
inductive Step (σ : Type) where
  | set (code : UInt8) (handler : Handler σ)
  | merge (overrides : Table UInt8 (Handler σ)) (distinct : overrides.keys.Nodup)

namespace Step

/-- The table after a step. -/
def apply (t : RequestTable σ) : Step σ → RequestTable σ
  | set code handler => t.set code handler
  | merge overrides _ => t.merge overrides

/-- The handler that a step writes for a code, if it writes one. -/
def handler? (code : UInt8) : Step σ → Option (Handler σ)
  | set c handler => if c = code then some handler else none
  | merge overrides _ => overrides.find? code

/-- A step of the builder leaves the default handler alone. -/
theorem default_apply (t : RequestTable σ) (step : Step σ) :
    (apply t step).default = t.default := by
  cases step <;> rfl

/-- After a step, a code has the handler of the step, and else the one it had. -/
theorem find?_apply (t : RequestTable σ) (step : Step σ) (code : UInt8) :
    (apply t step).entries.find? code = (step.handler? code).or (t.entries.find? code) := by
  cases step with
  | set c handler =>
    show (t.entries.insert c handler).find? code = _
    rw [Table.find?_insert, handler?]
    by_cases h : c = code <;> simp [h]
  | merge overrides distinct => exact t.entries.find?_insertAll_entries distinct code

end Step

/-- The table that steps make from a default, one after the other. -/
def ofSteps (default : Handler σ) (steps : List (Step σ)) : RequestTable σ :=
  steps.foldl Step.apply { default := default }

/-- The steps of the builder leave the default handler alone. -/
theorem default_foldl_apply (t : RequestTable σ) (steps : List (Step σ)) :
    (steps.foldl Step.apply t).default = t.default := by
  induction steps generalizing t with
  | nil => rfl
  | cons step steps ih => exact (ih (Step.apply t step)).trans (Step.default_apply t step)

/-- After some steps, a code has the handler of the last step that sets it, or the one it had. -/
theorem find?_foldl_apply (t : RequestTable σ) (steps : List (Step σ)) (code : UInt8) :
    (steps.foldl Step.apply t).entries.find? code =
      (steps.reverse.findSome? (Step.handler? code)).or (t.entries.find? code) := by
  induction steps generalizing t with
  | nil => rfl
  | cons step steps ih =>
    rw [List.foldl_cons, ih, Step.find?_apply, List.reverse_cons, List.findSome?_append,
      List.findSome?_singleton, Option.or_assoc]

/-- In a table that was built, a code has the handler of the last step that sets it. -/
theorem find?_ofSteps (default : Handler σ) (steps : List (Step σ)) (code : UInt8) :
    (ofSteps default steps).entries.find? code =
      steps.reverse.findSome? (Step.handler? code) := by
  rw [ofSteps, find?_foldl_apply, Table.find?_empty, Option.or_none]

/-- A merged table gives the overriding handler, and else the one it had. -/
theorem lookup_merge_eq (t : RequestTable σ) {overrides : Table UInt8 (Handler σ)}
    (h : overrides.keys.Nodup) (code : UInt8) :
    (t.merge overrides).lookup code = (overrides.find? code).getD (t.lookup code) := by
  rw [lookup, merge, Table.find?_insertAll_entries t.entries h]
  cases overrides.find? code <;> rfl

/-- A merged table contains the codes of both tables and no others. -/
theorem contains_merge_iff (t : RequestTable σ) {overrides : Table UInt8 (Handler σ)}
    (h : overrides.keys.Nodup) (code : UInt8) :
    (t.merge overrides).contains code ↔ code ∈ overrides.keys ∨ t.contains code := by
  rw [contains, merge, Table.contains, Table.find?_insertAll_entries t.entries h, Option.isSome_or,
    Bool.or_eq_true, Table.mem_keys_iff]
  rfl

/-- **The handler that was set last serves.**  Whatever handlers are set and overrides merged, in
any order: the handler of a code is the one that was written last for it, or the default if none
was; a code is contained just if one was written for it; overrides that are merged last win, for
their codes and no others; and a request runs the handler of its code on the state that is given,
and nothing else. -/
theorem lookup_ofSteps (default : Handler σ) (steps : List (Step σ)) :
    (∀ code, (ofSteps default steps).lookup code = lastWrite (Step.handler? code) default steps) ∧
      (∀ code, (ofSteps default steps).contains code ↔
        ∃ step ∈ steps, (step.handler? code).isSome) ∧
      (∀ overrides : Table UInt8 (Handler σ), overrides.keys.Nodup → ∀ code,
        ((ofSteps default steps).merge overrides).lookup code =
            (overrides.find? code).getD ((ofSteps default steps).lookup code) ∧
          (((ofSteps default steps).merge overrides).contains code ↔
            code ∈ overrides.keys ∨ (ofSteps default steps).contains code)) ∧
      ∀ speed r link state, (ofSteps default steps).dispatch speed r link state =
        lastWrite (Step.handler? r.code) default steps speed r link state := by
  have hlookup : ∀ code,
      (ofSteps default steps).lookup code = lastWrite (Step.handler? code) default steps := by
    intro code
    rw [lookup, find?_ofSteps, lastWrite, ofSteps, default_foldl_apply]
  refine ⟨hlookup, ?_, ?_, ?_⟩
  · intro code
    rw [contains, Table.contains, find?_ofSteps, List.findSome?_isSome_iff]
    simp only [List.mem_reverse]
  · intro overrides h code
    exact ⟨lookup_merge_eq _ h code, contains_merge_iff _ h code⟩
  · intro speed r link state
    rw [dispatch, hlookup]

/-- Overrides of one code. -/
def quiet : Table UInt8 (Handler Unit) := ⟨[(6, .replyEmpty)]⟩

/-- An override stays until the code is set again, and wins again when it is merged last. -/
theorem lookup_ofSteps_quiet :
    (ofSteps Handler.stall [.set 6 .stall, .merge quiet (by decide)]).lookup 6 =
        Handler.replyEmpty ∧
      (ofSteps Handler.stall [.merge quiet (by decide), .set 6 .stall]).lookup 6 =
        Handler.stall ∧
      quiet.keys.Nodup ∧
      ((ofSteps Handler.stall [.merge quiet (by decide), .set 6 .stall]).merge quiet).lookup 6 =
        Handler.replyEmpty :=
  ⟨(lookup_ofSteps _ _).1 6, (lookup_ofSteps _ _).1 6, by decide,
    ((lookup_ofSteps _ _).2.2.1 quiet (by decide) 6).1⟩

end RequestTable

/-- A device serves a request as its gadget overrides it, and by the standard if it does not. -/
theorem Device.lookup_ofGadget {g : Gadget} (h : g.overrides.keys.Nodup) (link : Link)
    (code : UInt8) :
    (ofGadget g link).requests.lookup code =
      (g.overrides.find? code).getD (StandardRequests.requests.lookup code) :=
  RequestTable.lookup_merge_eq _ h code

end UsbGadget
