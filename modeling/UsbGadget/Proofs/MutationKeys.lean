/-
# Which key of a mutation table counts

A mutation table is read from an object in which a key may stand more than once, and
several keys may name one stage, as white space around a name does not count.  On the
way from the file to the stages the entries meet in two tables:

| table | key | of entries that meet |
| --- | --- | --- |
| by text | the key as it is given | the last one in the file counts |
| by stage | the stage that it names | the one with the greatest key counts |

The first one holds the last value of each key (`mem_ofList_iff`).  The second one is
filled in the order of the first, until a key names no stage: then all keys before it
do (`foldlM_add_cases`).  If there is none, an entry is written over by those behind it
that name the same stage, which have greater keys (`find?_foldlM_add`).

So what is loaded can be said without either table (`loads_loadMutations`).
-/

import UsbGadget.Cli.Run
import UsbGadget.Proofs.ByteOrder
import UsbGadget.Proofs.JsonRecords
import UsbGadget.Proofs.Stock

namespace UsbGadget

/-! ### Names of stages -/

namespace Stage

variable {stage other : Stage} {key : String}

/-- A key names a stage if it is the name of the stage with white space around it. -/
def IsNamedBy (stage : Stage) (key : String) : Prop :=
  ∃ before after, WhiteSpace.Blank before ∧ WhiteSpace.Blank after ∧
    key.toList = before ++ stage.name.toList ++ after

/-- No name starts or ends in white space. -/
theorem name_edges (stage : Stage) :
    stage.name.toList ≠ [] ∧ stage.name.toList.head?.any WhiteSpace.isWhite = false ∧
      stage.name.toList.getLast?.any WhiteSpace.isWhite = false := by
  cases stage <;> decide

/-- A key names a stage just if it is the name between white space. -/
theorem isNamedBy_iff : stage.IsNamedBy key ↔ WhiteSpace.trim key = stage.name := by
  constructor
  · rintro ⟨before, after, hbefore, hafter, hkey⟩
    obtain ⟨hne, hfirst, hlast⟩ := stage.name_edges
    rw [WhiteSpace.trim, hkey, WhiteSpace.trimList_append hbefore hafter hne hfirst hlast,
      String.ofList_toList]
  · intro h
    obtain ⟨before, after, hbefore, hafter, hkey⟩ :=
      WhiteSpace.exists_eq_append_trimList key.toList
    refine ⟨before, after, hbefore, hafter, ?_⟩
    rwa [← h, WhiteSpace.trim, String.toList_ofList]

/-- A text is the exact name of a stage just if it is its name. -/
theorem ofExactName?_eq_some_iff {s : String} : ofExactName? s = some stage ↔ s = stage.name := by
  constructor
  · intro h
    have hname := List.find?_some h
    exact (of_decide_eq_true hname).symm
  · rintro rfl
    cases stage <;> rfl

/-- A stage is read from a key just if the key names it. -/
theorem ofName_eq_ok_iff : ofName key = .ok stage ↔ stage.IsNamedBy key := by
  rw [isNamedBy_iff, ← ofExactName?_eq_some_iff, ofName]
  cases ofExactName? (WhiteSpace.trim key) <;> simp

/-- A key names a stage, which is read from it, or none, and then the key is told as it stands. -/
theorem ofName_cases (key : String) :
    (∃ stage : Stage, stage.IsNamedBy key ∧ ofName key = .ok stage) ∨
      (∀ stage : Stage, ¬ stage.IsNamedBy key) ∧ ofName key = .error ⟨key⟩ := by
  cases h : ofExactName? (WhiteSpace.trim key) with
  | some stage =>
    have hok : ofName key = .ok stage := by rw [ofName, h]
    exact .inl ⟨stage, ofName_eq_ok_iff.1 hok, hok⟩
  | none =>
    have herror : ofName key = .error ⟨key⟩ := by rw [ofName, h]
    refine .inr ⟨fun stage hstage => ?_, herror⟩
    rw [ofName_eq_ok_iff.2 hstage] at herror
    cases herror

/-- A key names one stage at most. -/
theorem IsNamedBy.unique (h : stage.IsNamedBy key) (h' : other.IsNamedBy key) : stage = other :=
  Except.ok.inj ((ofName_eq_ok_iff.2 h).symm.trans (ofName_eq_ok_iff.2 h'))

end Stage

namespace MutationTable

variable {entries pairs : List (String × Bytes)} {stages : Table Stage Bytes} {stage : Stage}
variable {key : String} {bytes : Bytes}

/-! ### From the file to the table by text -/

/-- The object that maps keys to arrays of bytes as they are listed. -/
def toJson (pairs : List (String × Bytes)) : Json :=
  .record (pairs.map fun p => (p.1, .ofBytes p.2))

/-- The file of a table is among the values that are written. -/
theorem written_toJson (pairs : List (String × Bytes)) : (toJson pairs).Written :=
  .record (List.forall_mem_map.2 fun p _ => Json.written_ofBytes p.2)

/-- The entries of a table are read back from its file. -/
theorem entries?_toJson (pairs : List (String × Bytes)) :
    entries? (toJson pairs) = some (Table.ofList pairs) := by
  have hentry : ∀ p : String × Bytes, entry? (some p.1, .ofBytes p.2) = some p := by
    intro p
    unfold entry?
    rw [Json.bytes?_ofBytes]
    rfl
  rw [toJson, Json.record, entries?, List.map_map]
  exact congrArg _ (mapM_map_of_inverse hentry pairs)

/-- The bytes that stand last for a key. -/
def LastValue (pairs : List (String × Bytes)) (key : String) (bytes : Bytes) : Prop :=
  ∃ earlier later, pairs = earlier ++ (key, bytes) :: later ∧ key ∉ later.map (·.1)

/-- The entries of a table are the bytes that stand last for their keys. -/
theorem mem_ofList_iff :
    (key, bytes) ∈ (Table.ofList pairs).entries ↔ LastValue pairs key bytes := by
  rw [← Table.find?_eq_some_iff (Table.sorted_ofList pairs).nodup_keys,
    Table.find?_ofList_eq_some_iff, LastValue]

/-! ### From the table by text to the table by stage -/

/-- An entry that names a stage sets its bytes. -/
theorem add_of_isNamedBy (stages : Table Stage Bytes) (h : stage.IsNamedBy key) (bytes : Bytes) :
    add stages (key, bytes) = .ok (stages.insert stage bytes) := by
  rw [add, Stage.ofName_eq_ok_iff.2 h]
  rfl

/-- Entries are added up to the first one whose key names no stage. -/
theorem foldlM_add_cases (entries : List (String × Bytes)) (stages : Table Stage Bytes) :
    (∀ e ∈ entries, ∃ stage : Stage, stage.IsNamedBy e.1) ∧
        (∃ result, entries.foldlM add stages = .ok result) ∨
      ∃ earlier key bytes later, entries = earlier ++ (key, bytes) :: later ∧
        (∀ e ∈ earlier, ∃ stage : Stage, stage.IsNamedBy e.1) ∧
        (∀ stage : Stage, ¬ stage.IsNamedBy key) ∧ entries.foldlM add stages = .error ⟨key⟩ := by
  induction entries generalizing stages with
  | nil => exact .inl ⟨List.forall_mem_nil _, stages, rfl⟩
  | cons first rest ih =>
    obtain ⟨key, bytes⟩ := first
    rw [List.foldlM_cons]
    rcases Stage.ofName_cases key with ⟨stage, hstage, -⟩ | ⟨hunknown, herror⟩
    · rw [add_of_isNamedBy stages hstage]
      rcases ih (stages.insert stage bytes) with
        ⟨hnamed, hresult⟩ | ⟨earlier, unknown, other, later, rfl, hnamed, hunknown, herror⟩
      · exact .inl ⟨List.forall_mem_cons.2 ⟨⟨stage, hstage⟩, hnamed⟩, hresult⟩
      · exact .inr ⟨(key, bytes) :: earlier, unknown, other, later, rfl,
          List.forall_mem_cons.2 ⟨⟨stage, hstage⟩, hnamed⟩, hunknown, herror⟩
    · refine .inr ⟨[], key, bytes, rest, rfl, List.forall_mem_nil _, hunknown, ?_⟩
      rw [add, herror]
      rfl

/-- The entry with the greatest key that names a stage. -/
def Counts (entries : List (String × Bytes)) (stage : Stage) (bytes : Bytes) : Prop :=
  ∃ key, (key, bytes) ∈ entries ∧ stage.IsNamedBy key ∧
    ∀ e ∈ entries, stage.IsNamedBy e.1 → e.1 = key ∨ e.1 < key

/-- Of keys in order, the last one that names a stage counts. -/
theorem counts_concat_of_isNamedBy {value : Bytes} (h : stage.IsNamedBy key)
    (hlast : ∀ e ∈ entries, e.1 < key) :
    Counts (entries ++ [(key, value)]) stage bytes ↔ value = bytes := by
  constructor
  · rintro ⟨winner, hmem, -, hgreatest⟩
    have hkey := hgreatest _ (List.mem_append_right _ (List.mem_singleton_self _)) h
    rcases List.mem_append.1 hmem with hmem | hmem
    · have hlt := hlast _ hmem
      rcases hkey with rfl | hgt
      · exact absurd hlt (Std.Irrefl.irrefl _)
      · exact absurd hlt (Std.Asymm.asymm _ _ hgt)
    · exact (congrArg Prod.snd (List.mem_singleton.1 hmem)).symm
  · rintro rfl
    refine ⟨key, List.mem_append_right _ (List.mem_singleton_self _), h, fun e he _ => ?_⟩
    rcases List.mem_append.1 he with he | he
    · exact .inr (hlast e he)
    · exact .inl (congrArg Prod.fst (List.mem_singleton.1 he))

/-- A last key that does not name a stage does not count for it. -/
theorem counts_concat_of_not_isNamedBy {value : Bytes} (h : ¬ stage.IsNamedBy key) :
    Counts (entries ++ [(key, value)]) stage bytes ↔ Counts entries stage bytes := by
  refine exists_congr fun winner => ?_
  have hother : ∀ e ∈ [(key, value)], ¬ stage.IsNamedBy e.1 := List.forall_mem_singleton.2 h
  constructor
  · rintro ⟨hmem, hwinner, hgreatest⟩
    refine ⟨(List.mem_append.1 hmem).resolve_right fun hmem => hother _ hmem hwinner, hwinner, ?_⟩
    exact fun e he => hgreatest e (List.mem_append_left _ he)
  · rintro ⟨hmem, hwinner, hgreatest⟩
    refine ⟨List.mem_append_left _ hmem, hwinner, fun e he hnamed => ?_⟩
    rcases List.mem_append.1 he with he | he
    · exact hgreatest e he hnamed
    · exact absurd hnamed (hother e he)

/-- What is added in the order of the keys is found under a stage as it stands at the greatest key
that names the stage. -/
theorem find?_foldlM_add (hsorted : entries.Pairwise fun a b => a.1 < b.1)
    (h : entries.foldlM add {} = .ok stages) (stage : Stage) (bytes : Bytes) :
    stages.find? stage = some bytes ↔ Counts entries stage bytes := by
  -- From the end, since the last entry has the greatest key and is added last.
  induction entries using List.reverseRecOn generalizing stages with
  | nil =>
    cases h
    rw [Table.find?_empty]
    exact iff_of_false (Option.some_ne_none bytes).symm fun ⟨_, hmem, _⟩ => List.not_mem_nil hmem
  | append_singleton entries last ih =>
    obtain ⟨key, value⟩ := last
    obtain ⟨hentries, -, hlast⟩ := List.pairwise_append.1 hsorted
    rw [List.foldlM_append] at h
    obtain ⟨before, hbefore, h⟩ := exists_of_bind_eq_ok h
    rw [List.foldlM_cons] at h
    obtain ⟨after, hadd, h⟩ := exists_of_bind_eq_ok h
    cases h
    obtain ⟨named, hnamed, hinsert⟩ := exists_of_bind_eq_ok hadd
    cases hinsert
    have hnamed := Stage.ofName_eq_ok_iff.1 hnamed
    rw [Table.find?_insert]
    by_cases heq : named = stage
    · subst heq
      rw [if_pos rfl, Option.some_inj, counts_concat_of_isNamedBy hnamed]
      exact fun e he => hlast e he _ (List.mem_singleton_self _)
    · rw [if_neg heq, ih hentries hbefore, counts_concat_of_not_isNamedBy]
      exact fun hstage => heq (hnamed.unique hstage)

/-- A stage has bytes that count just if some key names it. -/
theorem exists_counts_iff (hsorted : entries.Pairwise fun a b => a.1 < b.1) :
    (∃ bytes, Counts entries stage bytes) ↔ ∃ e ∈ entries, stage.IsNamedBy e.1 := by
  refine ⟨fun ⟨bytes, key, hmem, hkey, _⟩ => ⟨_, hmem, hkey⟩, ?_⟩
  rintro ⟨e, he, hnamed⟩
  induction entries using List.reverseRecOn with
  | nil => cases he
  | append_singleton entries last ih =>
    obtain ⟨key, value⟩ := last
    obtain ⟨hentries, -, hlast⟩ := List.pairwise_append.1 hsorted
    by_cases hkey : stage.IsNamedBy key
    · refine ⟨value, (counts_concat_of_isNamedBy hkey fun e he => ?_).2 rfl⟩
      exact hlast e he _ (List.mem_singleton_self _)
    · simp only [counts_concat_of_not_isNamedBy hkey]
      refine ih hentries ((List.mem_append.1 he).resolve_right fun he => hkey ?_)
      rwa [List.mem_singleton.1 he] at hnamed

/-! ### What is loaded -/

/-- What comes of a file in which the given pairs of a key and bytes stand. -/
structure Loads (path : String) (pairs : List (String × Bytes))
    (result : Except Cli.Failure (Table Stage Bytes)) : Prop where
  /-- The file is loaded just if every key names a stage. -/
  success : (∃ stages, result = .ok stages) ↔
    ∀ key ∈ pairs.map (·.1), ∃ stage : Stage, stage.IsNamedBy key
  /-- Then there is an entry for each stage that is named and for no other, -/
  keys : ∀ stages, result = .ok stages → ∀ stage : Stage,
    stage ∈ stages.keys ↔ ∃ key ∈ pairs.map (·.1), stage.IsNamedBy key
  /-- and it holds the last bytes of the greatest key that names it, in the order of their bytes. -/
  values : ∀ stages, result = .ok stages → ∀ (stage : Stage) (bytes : Bytes),
    stages.find? stage = some bytes ↔
      ∃ key, LastValue pairs key bytes ∧ stage.IsNamedBy key ∧
        ∀ other ∈ pairs.map (·.1), stage.IsNamedBy other → other = key ∨ Utf8.Precedes other key
  /-- Otherwise the failure tells, as it is given, the least key that names no stage. -/
  failure : ∀ failure, result = .error failure →
    ∃ key ∈ pairs.map (·.1), (∀ stage : Stage, ¬ stage.IsNamedBy key) ∧
      (∀ other ∈ pairs.map (·.1), (∀ stage : Stage, ¬ stage.IsNamedBy other) →
        other = key ∨ Utf8.Precedes key other) ∧
      failure = ["mutation table " ++ path, "unknown mutation stage `" ++ key ++ "`"]

/-- A file whose keys all name stages is loaded. -/
theorem loads_ok {path : String}
    (hnamed : ∀ e ∈ (Table.ofList pairs).entries, ∃ stage : Stage, stage.IsNamedBy e.1)
    (hstages : (Table.ofList pairs).entries.foldlM add {} = .ok stages) :
    Loads path pairs (.ok stages) := by
  have hsorted := Table.sorted_ofList pairs
  have hfind := find?_foldlM_add hsorted hstages
  constructor
  case success =>
    exact iff_of_true ⟨stages, rfl⟩
      (Table.forall_ofList_iff (p := fun key => ∃ stage : Stage, stage.IsNamedBy key) |>.1 hnamed)
  case keys =>
    intro _ h stage
    cases h
    rw [Table.mem_keys_iff, Option.isSome_iff_exists, ← Table.exists_ofList_iff,
      ← exists_counts_iff hsorted]
    exact exists_congr (hfind stage)
  case values =>
    intro _ h stage bytes
    cases h
    rw [hfind]
    refine exists_congr fun key => ?_
    simp only [Utf8.precedes_iff]
    rw [mem_ofList_iff,
      Table.forall_ofList_iff (p := fun other => stage.IsNamedBy other → other = key ∨ other < key)]
  case failure =>
    intro _ h
    cases h

/-- A file in which a key names no stage fails with the least such key. -/
theorem loads_error {path : String} {earlier later : List (String × Bytes)}
    (hsplit : (Table.ofList pairs).entries = earlier ++ (key, bytes) :: later)
    (hnamed : ∀ e ∈ earlier, ∃ stage : Stage, stage.IsNamedBy e.1)
    (hunknown : ∀ stage : Stage, ¬ stage.IsNamedBy key) :
    Loads path pairs (.error ["mutation table " ++ path, (Stage.Unknown.mk key).message]) := by
  have hkey : key ∈ pairs.map (·.1) := by
    rw [← Table.mem_keys_ofList_iff, Table.keys, hsplit, List.map_append]
    exact List.mem_append_right _ List.mem_cons_self
  have hsorted := Table.sorted_ofList pairs
  rw [Table.Sorted, hsplit] at hsorted
  obtain ⟨hlater, -⟩ := List.pairwise_cons.1 (List.pairwise_append.1 hsorted).2.1
  constructor
  case success =>
    constructor
    · rintro ⟨stages, h⟩
      cases h
    · intro h
      obtain ⟨stage, hstage⟩ := h key hkey
      exact absurd hstage (hunknown stage)
  case keys =>
    intro _ h
    cases h
  case values =>
    intro _ h
    cases h
  case failure =>
    intro _ h
    cases h
    refine ⟨key, hkey, hunknown, ?_, rfl⟩
    simp only [Utf8.precedes_iff]
    rw [← Table.forall_ofList_iff (p := fun other => (∀ stage : Stage, ¬ stage.IsNamedBy other) →
      other = key ∨ key < other), hsplit]
    intro e he hother
    -- The keys before `key` name stages, and those behind it are greater.
    rcases List.mem_append.1 he with he | he
    · obtain ⟨stage, hstage⟩ := hnamed e he
      exact absurd hstage (hother stage)
    · rcases List.mem_cons.1 he with rfl | he
      · exact .inl rfl
      · exact .inr (hlater e he)

/-- What is loaded from a file is what its entries come to, or the failure of the first one that
fails. -/
theorem loadMutations_eq {files : Files} {path text : String} (hread : files.read path = .ok text)
    (hparse : Json.parse? text = some (toJson pairs)) :
    Cli.loadMutations files path = (byStage (Table.ofList pairs)).mapError
      fun u => ["mutation table " ++ path, u.message] := by
  have htext : Cli.readFile files "mutation table" path = .ok text := by rw [Cli.readFile, hread]
  have htable : (Json.parse? text).bind entries? = some (Table.ofList pairs) := by
    rw [hparse, Option.bind_some, entries?_toJson]
  simp only [Cli.loadMutations, htext, bind, Except.bind, htable]

/-- **A mutation table loads what it names.**  A file with an object that maps keys to bytes is
loaded just if every key, without the white space around it, is the name of a stage.  Then exactly
the stages that are named have an entry, and it is the last one of the greatest key that names the
stage.  Otherwise the least key that names no stage is reported as it stands in the file. -/
theorem loads_loadMutations {files : Files} {path text : String}
    (hread : files.read path = .ok text) (hparse : Json.parse? text = some (toJson pairs)) :
    Loads path pairs (Cli.loadMutations files path) := by
  rw [loadMutations_eq hread hparse, byStage]
  rcases foldlM_add_cases (Table.ofList pairs).entries {} with
    ⟨hnamed, stages, hstages⟩ | ⟨earlier, key, bytes, later, hsplit, hnamed, hunknown, herror⟩
  · rw [hstages]
    exact loads_ok hnamed hstages
  · rw [herror]
    exact loads_error hsplit hnamed hunknown

/-- Two keys that name one stage, the greater one twice, and a key that names another stage. -/
def spaced : List (String × Bytes) :=
  [("hub_descriptor", [1]), ("device_descriptor ", [2]), ("\tdevice_descriptor", [3]),
    ("device_descriptor ", [4])]

/-- Whatever is written for a table can be loaded, here from a file that any path leads to. -/
theorem loads_loadMutations_spaced :
    let text := (toJson spaced).pretty
    let files : Files := { read := fun _ => .ok text, sink := fun _ => .ok .file }
    files.read "table.json" = .ok text ∧ Json.parse? text = some (toJson spaced) ∧
      Loads "table.json" spaced (Cli.loadMutations files "table.json") ∧
      (Cli.loadMutations files "table.json").map (·.entries) =
        .ok [(.deviceDescriptor, [4]), (.hubDescriptor, [1])] := by
  intro text files
  have hread : files.read "table.json" = .ok text := rfl
  have hparse : Json.parse? text = some (toJson spaced) := (written_toJson spaced).parse?_pretty
  refine ⟨hread, hparse, loads_loadMutations hread hparse, ?_⟩
  rw [loadMutations_eq hread hparse]
  decide

end MutationTable
end UsbGadget
