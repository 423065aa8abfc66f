/-
# The first registration of a name stays

A registry changes by registrations alone, and each of them is refused if its name
is taken.  So whatever calls came, and whichever of them failed, every name has what
was registered for it first (`Registry.get?_registerEach`), and the table stays in
the order of its names (`Registry.sorted_registerEach`).  Both hold of one call
(`get?_register`, `sorted_register`) and from there of all of them.

A table in order is determined by what is found in it, so nothing else is needed to
say what is listed and what is built (`Registry.keepsFirst_registerEach`).
-/

import UsbGadget.Profile.Registry
import UsbGadget.Proofs.ByteOrder

namespace UsbGadget

/-- One call that registers a profile. -/
structure Registration where
  name : String
  entry : ProfileEntry

/-- What the first call for a name registers. -/
def Registration.first? (calls : List Registration) (name : String) : Option ProfileEntry :=
  (calls.find? fun c => c.name = name).map (·.entry)

/-- The first call for a name is the one at the front if that is for the name, or else one behind
it. -/
theorem Registration.first?_cons (c : Registration) (calls : List Registration) (name : String) :
    first? (c :: calls) name =
      (if c.name = name then some c.entry else none).or (first? calls name) := by
  by_cases h : c.name = name <;> simp [first?, h]

/-- There is a first call for a name just if there is one at all. -/
theorem Registration.exists_first?_eq_some_iff {calls : List Registration} {name : String} :
    (∃ entry, first? calls name = some entry) ↔ name ∈ calls.map (·.name) := by
  rw [← Option.isSome_iff_exists, first?, Option.isSome_map, List.find?_isSome, List.mem_map]
  simp only [decide_eq_true_eq]

namespace Registry

variable {reg : Registry} {name : String}

/-! ### One call -/

/-- The names of a registry are those that it has an entry for. -/
theorem mem_names_iff : name ∈ reg.names ↔ (reg.get? name).isSome := reg.entries.mem_keys_iff name

/-- A name that is taken is refused, and the registry stays as it is. -/
theorem register_of_mem (h : name ∈ reg.names) (entry : ProfileEntry) :
    reg.register name entry = (reg, some (.duplicate name)) :=
  if_pos (mem_names_iff.1 h)

/-- A name that is free gets the entry. -/
theorem register_of_not_mem (h : name ∉ reg.names) (entry : ProfileEntry) :
    reg.register name entry = (⟨reg.entries.insert name entry⟩, none) :=
  if_neg (mt mem_names_iff.2 h)

/-- Registering a name changes only what is found under that name, and only if it was free. -/
theorem get?_register (reg : Registry) (name other : String) (entry : ProfileEntry) :
    (reg.register name entry).1.get? other =
      (reg.get? other).or (if name = other then some entry else none) := by
  by_cases h : name ∈ reg.names
  · rw [register_of_mem h]
    split
    · next heq =>
      obtain ⟨taken, htaken⟩ := Option.isSome_iff_exists.1 (mem_names_iff.1 h)
      rw [← heq, htaken, Option.some_or]
    · rw [Option.or_none]
  · rw [register_of_not_mem h, get?, Table.find?_insert]
    split
    · next heq =>
      have hfree : reg.get? name = none := Option.not_isSome_iff_eq_none.1 (mt mem_names_iff.2 h)
      rw [← heq, hfree, Option.none_or]
    · rw [Option.or_none, get?]

/-- The entries stay in order. -/
theorem sorted_register (h : reg.entries.Sorted) (name : String) (entry : ProfileEntry) :
    (reg.register name entry).1.entries.Sorted := by
  by_cases hname : name ∈ reg.names
  · rwa [register_of_mem hname]
  · rw [register_of_not_mem hname]
    exact Table.sorted_place h

/-! ### Many calls, one after the other -/

/-- The registry after calls, whether they failed or not. -/
def registerEach (reg : Registry) (calls : List Registration) : Registry :=
  calls.foldl (fun reg c => (reg.register c.name c.entry).1) reg

/-- After many calls a name has the entry that it had, or else that of the first call for it. -/
theorem get?_registerEach (reg : Registry) (calls : List Registration) (name : String) :
    (reg.registerEach calls).get? name = (reg.get? name).or (Registration.first? calls name) := by
  induction calls generalizing reg with
  | nil => exact Option.or_none.symm
  | cons c calls ih =>
    have hrest := ih (reg.register c.name c.entry).1
    rw [get?_register, Option.or_assoc, ← Registration.first?_cons] at hrest
    exact hrest

/-- The entries stay in order through many calls. -/
theorem sorted_registerEach (h : reg.entries.Sorted) (calls : List Registration) :
    (reg.registerEach calls).entries.Sorted := by
  induction calls generalizing reg with
  | nil => exact h
  | cons c calls ih => exact ih (sorted_register h c.name c.entry)

/-! ### What is listed and what is built -/

/-- The entries are those that are found under their names. -/
theorem mem_entries_iff (h : reg.entries.Sorted) {entry : ProfileEntry} :
    (name, entry) ∈ reg.entries.entries ↔ reg.get? name = some entry :=
  (Table.find?_eq_some_iff h.nodup_keys).symm

/-- In a registry in order, the names precede each other strictly by their bytes. -/
theorem precedes_of_sorted (h : reg.entries.Sorted) :
    reg.entries.entries.Pairwise fun a b => Utf8.Precedes a.1 b.1 :=
  h.imp fun hlt => Utf8.precedes_iff.2 hlt

/-- A profile that is not there cannot be built. -/
theorem build_of_get?_eq_none (h : reg.get? name = none) (o : ProfileOptions) :
    reg.build name o = .error (.unknown name) := by
  rw [build, h]

/-- A profile that is there is built by its constructor, whose failure is passed on. -/
theorem build_of_get?_eq_some {entry : ProfileEntry} (h : reg.get? name = some entry)
    (o : ProfileOptions) : reg.build name o = (entry.construct o).mapError .build := by
  rw [build, h]

/-- A registry does not know a name just if it is not among the names. -/
theorem build_eq_unknown_iff {o : ProfileOptions} {missing : String} :
    reg.build name o = .error (.unknown missing) ↔ missing = name ∧ name ∉ reg.names := by
  rw [mem_names_iff, Option.not_isSome_iff_eq_none]
  cases h : reg.get? name with
  | none =>
    rw [build_of_get?_eq_none h]
    simp [eq_comm]
  | some entry =>
    rw [build_of_get?_eq_some h]
    cases entry.construct o <;> simp [Except.mapError]

/-- What calls make of a registry that they start from: what was registered first is kept. -/
structure KeepsFirst (start : Registry) (calls : List Registration) (reg : Registry) : Prop where
  /-- The entries are those of the start and, for each other name, what was registered for it
  first. -/
  entries : ∀ name entry, (name, entry) ∈ reg.entries.entries ↔
    (name, entry) ∈ start.entries.entries ∨
      name ∉ start.names ∧ Registration.first? calls name = some entry
  /-- The names are those of the start and of the calls. -/
  names : ∀ name, name ∈ reg.names ↔ name ∈ start.names ∨ name ∈ calls.map (·.name)
  /-- One more call fails just if its name is present, -/
  failure : ∀ name entry,
    (reg.register name entry).2 = if name ∈ reg.names then some (.duplicate name) else none
  /-- and then it leaves everything as it was. -/
  unchanged : ∀ name entry, (reg.register name entry).2 ≠ none → (reg.register name entry).1 = reg
  /-- What is listed stands in the order of the bytes of the names, -/
  ordered : reg.names.Pairwise Utf8.Precedes ∧
    (reg.entries.entries.Pairwise fun a b => Utf8.Precedes a.1 b.1) ∧
    reg.descriptions.Pairwise fun a b => Utf8.Precedes a.1 b.1
  /-- and nothing is listed twice. -/
  nodup : reg.names.Nodup
  /-- A name that is not there cannot be built, and this failure says nothing else. -/
  unknown : ∀ name o missing,
    reg.build name o = .error (.unknown missing) ↔ missing = name ∧ name ∉ reg.names
  /-- All others are built as they are listed, with the failure of the constructor in a wrapper. -/
  build : ∀ name entry o, (name, entry) ∈ reg.entries.entries →
    reg.build name o =
      match entry.construct o with
      | .ok g => .ok g
      | .error cause => .error (.build cause)

/-- A registry in order keeps, for every name, what was registered first. -/
theorem keepsFirst_of_sorted {start : Registry} (hstart : start.entries.Sorted)
    (calls : List Registration) : KeepsFirst start calls (start.registerEach calls) := by
  have hsorted := sorted_registerEach hstart calls
  have hget := get?_registerEach start calls
  have hordered := precedes_of_sorted hsorted
  constructor
  case entries =>
    intro name entry
    rw [mem_entries_iff hsorted, mem_entries_iff hstart, hget, mem_names_iff,
      Option.not_isSome_iff_eq_none, Option.or_eq_some_iff]
  case names =>
    intro name
    rw [mem_names_iff, mem_names_iff, hget, Option.isSome_or, Bool.or_eq_true,
      ← Registration.exists_first?_eq_some_iff, ← Option.isSome_iff_exists]
  case failure =>
    intro name entry
    split
    · next h => rw [register_of_mem h]
    · next h => rw [register_of_not_mem h]
  case unchanged =>
    intro name entry hfails
    by_cases h : name ∈ (start.registerEach calls).names
    · rw [register_of_mem h]
    · rw [register_of_not_mem h] at hfails
      exact absurd rfl hfails
  case ordered => exact ⟨List.pairwise_map.2 hordered, hordered, List.pairwise_map.2 hordered⟩
  case nodup => exact hsorted.nodup_keys
  case unknown => exact fun name o missing => build_eq_unknown_iff
  case build =>
    intro name entry o h
    rw [build_of_get?_eq_some ((mem_entries_iff hsorted).1 h)]
    cases entry.construct o <;> rfl

/-- **The first registration of a name stays.**  Whatever is registered on top of nothing or of the
profiles that are built in, and whichever of the calls fail: each name has the entry that came
first, a call fails just if its name is present and then changes nothing, everything is listed in
the order of the names and once, and what is built is what the first constructor of the name
gives. -/
theorem keepsFirst_registerEach {start : Registry} (hstart : start = empty ∨ start = builtins)
    (calls : List Registration) : KeepsFirst start calls (start.registerEach calls) := by
  have hsorted : start.entries.Sorted := by
    rcases hstart with rfl | rfl
    · exact List.Pairwise.nil
    · exact Table.sorted_ofList _
  exact keepsFirst_of_sorted hsorted calls

/-- Calls for a name that is built in, for a new one, and for the new one again. -/
def hubs : List Registration :=
  [⟨"hub", ⟨"again", Hub.build⟩⟩, ⟨"my_hub", ⟨"Custom hub", Hub.build⟩⟩,
    ⟨"my_hub", ⟨"another", fun _ => .error .noConfigurations⟩⟩]

/-- The profiles that are built in are a start, on which the new name stands last and as it was
registered first. -/
theorem keepsFirst_registerEach_hubs :
    (builtins = empty ∨ builtins = builtins) ∧
      KeepsFirst builtins hubs (builtins.registerEach hubs) ∧
      (builtins.registerEach hubs).descriptions =
        builtins.descriptions ++ [("my_hub", "Custom hub")] :=
  ⟨.inr rfl, keepsFirst_registerEach (.inr rfl) hubs, by decide⟩

end Registry
end UsbGadget
