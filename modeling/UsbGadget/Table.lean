/-
# Finite tables in key order

A table is a list of entries in strictly increasing order of their keys, so that
it can be read out in order and two tables with the same entries are equal.
Inserting at a key that is present replaces its value.

* `find?_insert` says what is found after one insertion;
* `find?_insertAll` says that of many insertions the last one of a key counts;
  `find?_ofList_eq_some_iff` says it by the place of that one, and `last_of_find?_ofList` by
  the order that the entries are listed in;
* `mem_insertAll` says that insertions bring no entries of their own;
* `find?_eq_some_iff` says that each entry is found where no key is repeated, and
  `find?_insertAll_entries` what is found after another table is inserted;
* `Sorted.insertAll` says that insertions keep the order of the keys.
-/

namespace UsbGadget

/-- A finite table from keys to values. -/
structure Table (κ : Type) (ν : Type) where
  entries : List (κ × ν) := []

namespace Table

variable {κ ν : Type}

/-- The entries with `key` set to `value`, in the place that the order of keys gives it. -/
def place [LT κ] [DecidableLT κ] [DecidableEq κ] (key : κ) (value : ν) :
    List (κ × ν) → List (κ × ν)
  | [] => [(key, value)]
  | (k, v) :: rest =>
    if key < k then (key, value) :: (k, v) :: rest
    else if key = k then (key, value) :: rest
    else (k, v) :: place key value rest

/-- Sets `key` to `value`, whether the key was present or not. -/
def insert [LT κ] [DecidableLT κ] [DecidableEq κ] (t : Table κ ν) (key : κ) (value : ν) :
    Table κ ν :=
  ⟨place key value t.entries⟩

/-- Inserts the entries one after the other, so that the last value of a key stays. -/
def insertAll [LT κ] [DecidableLT κ] [DecidableEq κ] (t : Table κ ν) (entries : List (κ × ν)) :
    Table κ ν :=
  entries.foldl (fun t e => t.insert e.1 e.2) t

/-- The table of a list of entries; of two entries with one key the later one stays. -/
def ofList [LT κ] [DecidableLT κ] [DecidableEq κ] (entries : List (κ × ν)) : Table κ ν :=
  insertAll {} entries

/-- The value at `key`, if there is one. -/
def find? [DecidableEq κ] (t : Table κ ν) (key : κ) : Option ν :=
  (t.entries.find? fun e => decide (e.1 = key)).map (·.2)

/-- Whether the table has an entry at `key`. -/
def contains [DecidableEq κ] (t : Table κ ν) (key : κ) : Bool := (t.find? key).isSome

/-- The keys in increasing order. -/
def keys (t : Table κ ν) : List κ := t.entries.map (·.1)

/-- The order that every table built by insertion is in. -/
def Sorted [LT κ] (t : Table κ ν) : Prop := t.entries.Pairwise fun a b => a.1 < b.1

@[simp] theorem find?_empty [DecidableEq κ] (key : κ) : ({} : Table κ ν).find? key = none := rfl

/-- After an insertion the key has the new value, and every other key the one that it had. -/
theorem find?_insert [LT κ] [DecidableLT κ] [DecidableEq κ] (t : Table κ ν) (key other : κ)
    (value : ν) :
    (t.insert key value).find? other = if key = other then some value else t.find? other := by
  obtain ⟨entries⟩ := t
  simp only [insert, find?]
  induction entries with
  | nil => by_cases h : key = other <;> simp [place, h]
  | cons e rest ih =>
    obtain ⟨k, v⟩ := e
    by_cases hk : key = other <;> by_cases ho : k = other <;>
      simp only [place] <;> split <;> (try split) <;> simp_all

/-- The last entry of a key is the one that is found. -/
theorem find?_insertAll [LT κ] [DecidableLT κ] [DecidableEq κ] (t : Table κ ν)
    (entries : List (κ × ν)) (key : κ) :
    (t.insertAll entries).find? key =
      ((entries.reverse.find? fun e => decide (e.1 = key)).map (·.2)).or (t.find? key) := by
  induction entries generalizing t with
  | nil => rfl
  | cons e rest ih =>
    rw [insertAll, List.foldl_cons, ← insertAll, ih, find?_insert, List.reverse_cons,
      List.find?_append]
    cases rest.reverse.find? fun e => decide (e.1 = key) <;> by_cases h : e.1 = key <;> simp [h]

/-- What is found in the table of a list is the entry of the key that no other one follows. -/
theorem find?_ofList_eq_some_iff [LT κ] [DecidableLT κ] [DecidableEq κ] {entries : List (κ × ν)}
    {key : κ} {value : ν} :
    (ofList entries).find? key = some value ↔
      ∃ earlier later, entries = earlier ++ (key, value) :: later ∧ key ∉ later.map (·.1) := by
  rw [ofList, find?_insertAll, find?_empty, Option.or_none, Option.map_eq_some_iff]
  constructor
  · rintro ⟨e, he, rfl⟩
    obtain ⟨hkey, later, earlier, hsplit, hlater⟩ := List.find?_eq_some_iff_append.1 he
    obtain rfl := of_decide_eq_true hkey
    -- The search runs from the end, so no entry behind `e` has the key.
    refine ⟨earlier.reverse, later.reverse, ?_, ?_⟩
    · rw [← List.reverse_reverse entries, hsplit, List.reverse_append, List.reverse_cons,
        List.append_assoc, List.singleton_append]
    · rw [List.mem_map]
      rintro ⟨other, hother, heq⟩
      have hne := hlater other (List.mem_reverse.1 hother)
      rw [decide_eq_true heq] at hne
      cases hne
  · rintro ⟨earlier, later, rfl, hlater⟩
    refine ⟨(key, value), List.find?_eq_some_iff_append.2 ⟨decide_eq_true rfl, later.reverse,
      earlier.reverse, ?_, fun other hother => ?_⟩, rfl⟩
    · rw [List.reverse_append, List.reverse_cons, List.append_assoc, List.singleton_append]
    · have hne : other.1 ≠ key := fun heq =>
        hlater (List.mem_map.2 ⟨other, List.mem_reverse.1 hother, heq⟩)
      rw [decide_eq_false hne, Bool.not_false]

/-- Of entries that are listed in an order, the last one of a key is the one that is found. -/
theorem last_of_find?_ofList [LT κ] [DecidableLT κ] [DecidableEq κ] {R : κ × ν → κ × ν → Prop}
    {entries : List (κ × ν)} {key : κ} {value : ν} (hordered : entries.Pairwise R)
    (h : (ofList entries).find? key = some value) :
    (key, value) ∈ entries ∧
      ∀ other, (key, other) ∈ entries → other = value ∨ R (key, other) (key, value) := by
  obtain ⟨earlier, later, rfl, hlater⟩ := find?_ofList_eq_some_iff.1 h
  refine ⟨List.mem_append_right _ List.mem_cons_self, ?_⟩
  intro other hother
  rcases List.mem_append.1 hother with hother | hother
  · right
    exact (List.pairwise_append.1 hordered).2.2 _ hother _ List.mem_cons_self
  · rcases List.mem_cons.1 hother with hother | hother
    · left
      exact congrArg Prod.snd hother
    · exact absurd (List.mem_map.2 ⟨_, hother, rfl⟩) hlater

/-- A key is in a table made of a list just if the list has it. -/
theorem isSome_find?_ofList [LT κ] [DecidableLT κ] [DecidableEq κ] (entries : List (κ × ν))
    (key : κ) : ((ofList entries).find? key).isSome ↔ ∃ value, (key, value) ∈ entries := by
  rw [ofList, find?_insertAll, find?_empty, Option.or_none, Option.isSome_map, List.find?_isSome]
  constructor
  · rintro ⟨e, he, hkey⟩
    obtain rfl := of_decide_eq_true hkey
    exact ⟨e.2, List.mem_reverse.1 he⟩
  · rintro ⟨value, h⟩
    exact ⟨(key, value), List.mem_reverse.2 h, decide_eq_true rfl⟩

/-- The keys of a table are those that have a value. -/
theorem mem_keys_iff [DecidableEq κ] (t : Table κ ν) (key : κ) :
    key ∈ t.keys ↔ (t.find? key).isSome := by
  rw [keys, List.mem_map, find?, Option.isSome_map, List.find?_isSome]
  simp only [decide_eq_true_eq]

/-- The keys of a table made of a list are those of the list. -/
theorem mem_keys_ofList_iff [LT κ] [DecidableLT κ] [DecidableEq κ] {entries : List (κ × ν)}
    {key : κ} : key ∈ (ofList entries).keys ↔ key ∈ entries.map (·.1) := by
  rw [mem_keys_iff, isSome_find?_ofList, List.mem_map]
  exact ⟨fun ⟨value, h⟩ => ⟨_, h, rfl⟩, fun ⟨e, he, heq⟩ => ⟨e.2, heq ▸ he⟩⟩

/-- What all keys of a table have, all keys of its list have. -/
theorem forall_ofList_iff [LT κ] [DecidableLT κ] [DecidableEq κ] {entries : List (κ × ν)}
    {p : κ → Prop} :
    (∀ e ∈ (ofList entries).entries, p e.1) ↔ ∀ key ∈ entries.map (·.1), p key := by
  constructor
  · intro h key hkey
    obtain ⟨e, he, rfl⟩ := List.mem_map.1 (mem_keys_ofList_iff.2 hkey)
    exact h e he
  · intro h e he
    exact h e.1 (mem_keys_ofList_iff.1 (List.mem_map.2 ⟨e, he, rfl⟩))

/-- What some key of a table has, some key of its list has. -/
theorem exists_ofList_iff [LT κ] [DecidableLT κ] [DecidableEq κ] {entries : List (κ × ν)}
    {p : κ → Prop} :
    (∃ e ∈ (ofList entries).entries, p e.1) ↔ ∃ key ∈ entries.map (·.1), p key := by
  constructor
  · rintro ⟨e, he, hp⟩
    exact ⟨e.1, mem_keys_ofList_iff.1 (List.mem_map.2 ⟨e, he, rfl⟩), hp⟩
  · rintro ⟨key, hkey, hp⟩
    obtain ⟨e, he, rfl⟩ := List.mem_map.1 (mem_keys_ofList_iff.2 hkey)
    exact ⟨e, he, hp⟩

/-- An entry that is there after another one was placed is that one, or was there before. -/
theorem mem_place [LT κ] [DecidableLT κ] [DecidableEq κ] {key : κ} {value : ν} {e : κ × ν}
    {entries : List (κ × ν)} (h : e ∈ place key value entries) :
    e = (key, value) ∨ e ∈ entries := by
  induction entries with
  | nil => exact .inl (List.mem_singleton.1 h)
  | cons first rest ih =>
    rw [place] at h
    split at h
    · exact List.mem_cons.1 h
    · split at h
      · exact (List.mem_cons.1 h).imp_right (List.mem_cons_of_mem _)
      · rcases List.mem_cons.1 h with rfl | h
        · exact .inr List.mem_cons_self
        · exact (ih h).imp_right (List.mem_cons_of_mem _)

/-- An entry that is there after insertions was inserted, or was there before. -/
theorem mem_insertAll [LT κ] [DecidableLT κ] [DecidableEq κ] {t : Table κ ν} {e : κ × ν}
    {entries : List (κ × ν)} (h : e ∈ (t.insertAll entries).entries) :
    e ∈ entries ∨ e ∈ t.entries := by
  induction entries generalizing t with
  | nil => exact .inr h
  | cons first rest ih =>
    rw [insertAll, List.foldl_cons, ← insertAll] at h
    rcases ih h with h | h
    · exact .inl (List.mem_cons_of_mem _ h)
    · rcases mem_place h with rfl | h
      · exact .inl List.mem_cons_self
      · exact .inr h

/-- The entries of a table made of a list are from the list. -/
theorem mem_ofList [LT κ] [DecidableLT κ] [DecidableEq κ] {e : κ × ν} {entries : List (κ × ν)}
    (h : e ∈ (ofList entries).entries) : e ∈ entries :=
  (mem_insertAll h).resolve_right List.not_mem_nil

/-- Where every key has one entry, that is the one that is found. -/
theorem find?_eq_some_iff [DecidableEq κ] {t : Table κ ν} (h : t.keys.Nodup) {key : κ} {value : ν} :
    t.find? key = some value ↔ (key, value) ∈ t.entries := by
  obtain ⟨entries⟩ := t
  simp only [find?]
  induction entries with
  | nil => simp
  | cons first rest ih =>
    obtain ⟨k, v⟩ := first
    obtain ⟨hfirst, hrest⟩ := List.nodup_cons.1 h
    by_cases hk : k = key
    · subst hk
      have hother : (k, value) ∉ rest := fun hmem => hfirst (List.mem_map.2 ⟨_, hmem, rfl⟩)
      simp [hother, eq_comm]
    · have hother : (key, value) ≠ (k, v) := fun heq => hk (congrArg Prod.fst heq).symm
      simpa [List.find?_cons, hk, hother] using ih hrest

/-- What a table is inserted into has the entries of both, and where both have one, the new one. -/
theorem find?_insertAll_entries [LT κ] [DecidableLT κ] [DecidableEq κ] (t : Table κ ν)
    {more : Table κ ν} (h : more.keys.Nodup) (key : κ) :
    (t.insertAll more.entries).find? key = (more.find? key).or (t.find? key) := by
  have hreverse : (Table.mk more.entries.reverse).keys.Nodup := by
    rw [keys, List.map_reverse]
    exact List.pairwise_reverse.2 (h.imp Ne.symm)
  have hlast : (Table.mk more.entries.reverse).find? key = more.find? key := by
    refine Option.ext fun value => ?_
    rw [find?_eq_some_iff hreverse, find?_eq_some_iff h, List.mem_reverse]
  rw [find?_insertAll, ← hlast]
  rfl

/-- A table in order has distinct keys. -/
theorem Sorted.nodup_keys [LT κ] [Std.Irrefl fun a b : κ => a < b] {t : Table κ ν}
    (h : t.Sorted) : t.keys.Nodup := by
  refine List.pairwise_map.2 (h.imp fun {a b} hlt heq => ?_)
  rw [heq] at hlt
  exact Std.Irrefl.irrefl b.1 hlt

section Order

variable [LT κ] [DecidableLT κ] [DecidableEq κ]
variable [Trans (fun a b : κ => a < b) (fun a b : κ => a < b) (fun a b : κ => a < b)]
variable [Std.Trichotomous fun a b : κ => a < b]

/-- Placing an entry keeps the order. -/
theorem sorted_place {key : κ} {value : ν} {entries : List (κ × ν)}
    (h : entries.Pairwise fun a b => a.1 < b.1) :
    (place key value entries).Pairwise fun a b => a.1 < b.1 := by
  induction entries with
  | nil => exact List.pairwise_singleton _ _
  | cons first rest ih =>
    obtain ⟨k, v⟩ := first
    obtain ⟨hfirst, hrest⟩ := List.pairwise_cons.1 h
    rw [place]
    split
    · next hlt =>
      refine List.pairwise_cons.2 ⟨fun e he => ?_, h⟩
      rcases List.mem_cons.1 he with rfl | he
      · exact hlt
      · exact Trans.trans hlt (hfirst e he)
    · next hge =>
      split
      · next heq =>
        subst heq
        exact List.pairwise_cons.2 ⟨hfirst, hrest⟩
      · next hne =>
        have hgt : k < key := by
          refine Decidable.byContradiction fun hnot => hne ?_
          exact Std.Trichotomous.trichotomous (r := fun a b : κ => a < b) key k hge hnot
        refine List.pairwise_cons.2 ⟨fun e he => ?_, ih hrest⟩
        rcases mem_place he with rfl | he
        · exact hgt
        · exact hfirst e he

/-- Insertions keep the order. -/
theorem Sorted.insertAll {t : Table κ ν} (h : t.Sorted) (entries : List (κ × ν)) :
    (t.insertAll entries).Sorted := by
  induction entries generalizing t with
  | nil => exact h
  | cons e rest ih => exact ih (sorted_place h)

/-- A table made of a list is in order. -/
theorem sorted_ofList (entries : List (κ × ν)) : (ofList entries).Sorted :=
  Sorted.insertAll List.Pairwise.nil entries

end Order

end Table
end UsbGadget
