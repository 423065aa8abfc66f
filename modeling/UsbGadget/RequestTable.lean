/-
# Request tables

A handler serves a control request over some state.  A table maps request codes
to handlers and has a default for all others; an entry that is set later
replaces one that is there.

* `lookup` is the handler of a code, `dispatch` lets it serve a request;
* `merge` sets many entries, each of which wins over the one before it;
* `lookup_of_forall`, `lookup_ofList`, `lookup_merge` and `lookup_merge_of_forall` say that what all
  handlers of a table do, every look-up does.
-/

import UsbGadget.Link
import UsbGadget.Speed
import UsbGadget.Table
import UsbGadget.Text.Describe

namespace UsbGadget

/-- Serves a request at the speed that the device runs at. -/
abbrev Handler (σ : Type) := Speed → Request → Link → σ → Answer σ

namespace Handler

variable {σ : Type}

/-- Replies with no data. -/
def replyEmpty : Handler σ := fun _ _ link s => link.replyEmpty s

/-- Refuses every request. -/
def stall : Handler σ := fun _ _ link s => link.stall s

/-- The reason that is signalled when an unknown request was answered. -/
def servicedReason (r : Request) : String :=
  r.kind.name ++ " request " ++ Hex.literal 2 r.code.toNat ++ " serviced"

/-- Replies with no data and, when that went out, signals that the host used the function. -/
def serviced : Handler σ := fun _ r link s =>
  let answer := link.replyEmpty s
  match answer.failure with
  | none => { answer with link := answer.link.signal (servicedReason r) }
  | some _ => answer

/-- A request that is replied to with no data leaves the state alone. -/
theorem state_serviced (speed : Speed) (r : Request) (link : Link) (s : σ) :
    (serviced speed r link s).state = s := by
  unfold serviced
  dsimp only
  split <;> exact link.state_replyEmpty s

end Handler

/-- Handlers by request code, and a default. -/
structure RequestTable (σ : Type) where
  entries : Table UInt8 (Handler σ) := {}
  default : Handler σ

namespace RequestTable

variable {σ : Type}

/-- Sets the handler of a code. -/
def set (t : RequestTable σ) (code : UInt8) (h : Handler σ) : RequestTable σ :=
  { t with entries := t.entries.insert code h }

/-- Sets every entry of `overrides`. -/
def merge (t : RequestTable σ) (overrides : Table UInt8 (Handler σ)) : RequestTable σ :=
  { t with entries := t.entries.insertAll overrides.entries }

/-- Whether a code has a handler of its own. -/
def contains (t : RequestTable σ) (code : UInt8) : Bool := t.entries.contains code

/-- The handler of a code: its own, or else the default. -/
def lookup (t : RequestTable σ) (code : UInt8) : Handler σ := (t.entries.find? code).getD t.default

/-- After a handler is set, its code has this handler and every other code the one it had. -/
theorem lookup_set (t : RequestTable σ) (code other : UInt8) (h : Handler σ) :
    (t.set code h).lookup other = if code = other then h else t.lookup other := by
  simp only [lookup, set, Table.find?_insert]
  split <;> rfl

/-- What the default and all entries of a code have in common, the handler of the code has. -/
theorem lookup_of_forall {t : RequestTable σ} {code : UInt8} {P : Handler σ → Prop}
    (hdefault : P t.default) (hentries : ∀ e ∈ t.entries.entries, e.1 = code → P e.2) :
    P (t.lookup code) := by
  rw [lookup, Table.find?]
  cases h : t.entries.entries.find? fun e => decide (e.1 = code) with
  | none => exact hdefault
  | some e =>
    have hcode : decide (e.1 = code) = true := by
      have := List.find?_some h
      exact this
    exact hentries e (List.mem_of_find?_eq_some h) (of_decide_eq_true hcode)

/-- What the default and all listed handlers have in common, the handler of every code has. -/
theorem lookup_ofList {entries : List (UInt8 × Handler σ)} {default : Handler σ}
    {P : Handler σ → Prop} (hdefault : P default) (hentries : ∀ e ∈ entries, P e.2) (code : UInt8) :
    P (lookup ⟨.ofList entries, default⟩ code) :=
  lookup_of_forall hdefault fun e he _ => hentries e (Table.mem_ofList he)

/-- What the handler of a code in a table and all overrides of the code have in common, the handler
of the code has. -/
theorem lookup_merge_of_forall {t : RequestTable σ} {overrides : Table UInt8 (Handler σ)}
    {code : UInt8} {P : Handler σ → Prop} (ht : P (t.lookup code))
    (hoverrides : ∀ e ∈ overrides.entries, e.1 = code → P e.2) :
    P ((t.merge overrides).lookup code) := by
  rw [lookup, merge, Table.find?_insertAll]
  cases h : overrides.entries.reverse.find? fun e => decide (e.1 = code) with
  | none => exact ht
  | some e =>
    have hcode : decide (e.1 = code) = true := by
      have := List.find?_some h
      exact this
    exact hoverrides e (List.mem_reverse.1 (List.mem_of_find?_eq_some h)) (of_decide_eq_true hcode)

/-- What a table and all overrides have in common, the handler of every code has. -/
theorem lookup_merge {t : RequestTable σ} {overrides : Table UInt8 (Handler σ)}
    {P : Handler σ → Prop} (ht : ∀ code, P (t.lookup code))
    (hoverrides : ∀ e ∈ overrides.entries, P e.2) (code : UInt8) :
    P ((t.merge overrides).lookup code) :=
  lookup_merge_of_forall (ht code) fun e he _ => hoverrides e he

/-- Lets the handler of the request's code serve it. -/
def dispatch (t : RequestTable σ) (speed : Speed) (r : Request) (link : Link) (s : σ) : Answer σ :=
  t.lookup r.code speed r link s

/-- A one-line description: the codes with a handler of their own. -/
def describe (t : RequestTable σ) : String :=
  Describe.openRecord "HandlerTable"
    [("requests", Describe.list (t.entries.keys.map fun code => toString code.toNat))]

end RequestTable
end UsbGadget
