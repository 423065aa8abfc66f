/-
# Records are read back

A record is written by one rule and read by another: the names of its fields, what
is left out, and what stands for a field that is missing are said twice.

| record | is written as | may leave out |
| --- | --- | --- |
| list of events | a list of objects with a tag | |
| request | an object with the standard field names | the data stage, if there is none |
| policy | an object with the names of the choices | |
| options | an object, with `null` for what is not set | |

The two rules agree (`Json.records_readBack`).  The fields of a record have different
names, so each of them is found once (`Json.valuesOf_of_mem`), and its reader gives
back what was written (`Json.byte?_natural`, `word?_natural`, `bytes?_ofBytes`,
`nullable?_elim`).  An event is read as a whole before its tag is looked at, so that
its fields have to be plain as well.  All records are values that survive being
written as text, so they are read back from files too.
-/

import UsbGadget.Json.Records
import UsbGadget.Proofs.JsonText
import UsbGadget.Proofs.StoreStream

namespace UsbGadget

/-- What is written item by item is read back. -/
theorem mapM_map_of_inverse {α β : Type} {write : α → β} {read : β → Option α}
    (h : ∀ a, read (write a) = some a) (as : List α) : (as.map write).mapM read = some as :=
  mapM_eq_some_of_forall₂ (List.forall₂_map_left_iff.2 (List.forall₂_same.2 fun a _ => h a))

namespace Json

/-! ### Values -/

/-- A natural number is read back if it is not above the bound. -/
theorem natural?_natural {n most : Nat} (h : n ≤ most) : (natural n).natural? most = some n :=
  if_pos (decide_eq_true h)

/-- A byte is read back from its number. -/
theorem byte?_natural (b : UInt8) : byte? (natural b.toNat) = some b := by
  rw [byte?, natural?_natural (Nat.le_of_lt_succ b.toNat_lt), Option.map_some, UInt8.ofNat_toNat]

/-- A word is read back from its number. -/
theorem word?_natural (w : UInt16) : word? (natural w.toNat) = some w := by
  rw [word?, natural?_natural (Nat.le_of_lt_succ w.toNat_lt), Option.map_some, UInt16.ofNat_toNat]

/-- Bytes are read back from their numbers. -/
theorem bytes?_ofBytes (bytes : Bytes) : bytes? (ofBytes bytes) = some bytes :=
  mapM_map_of_inverse byte?_natural bytes

/-- A value that may be missing is read back if none is written as `null`. -/
theorem nullable?_elim {α : Type} {write : α → Json} {read : Json → Option α}
    (hnull : ∀ a, write a ≠ null) (hread : ∀ a, read (write a) = some a) (a : Option α) :
    nullable? read (a.elim null write) = some a := by
  cases a with
  | none => rfl
  | some a =>
    rw [Option.elim_some, nullable?]
    · rw [hread, Option.map_some]
    · exact hnull a

/-! ### Fields -/

/-- The members of an object that is written with the given fields. -/
def membersOf (fields : List (String × Json)) : Members := fields.map fun m => (some m.1, m.2)

/-- A record is the object of its fields. -/
theorem record_eq (fields : List (String × Json)) : record fields = object (membersOf fields) := rfl

/-- What all members of a record have by their keys, all names of the fields have. -/
theorem all_membersOf (p : Option String → Bool) (fields : List (String × Json)) :
    ((membersOf fields).all fun m => p m.1) = (fields.map (·.1)).all fun name => p (some name) := by
  rw [membersOf, List.all_map, List.all_map]
  rfl

/-- The keys of a record all have a text. -/
theorem haveText_membersOf (fields : List (String × Json)) : haveText (membersOf fields) = true :=
  (all_membersOf Option.isSome fields).trans (List.all_eq_true.2 fun _ _ => rfl)

/-- Of the first field, its value is found under its name, in front of those of the others. -/
theorem valuesOf_membersOf_cons (name key : String) (v : Json) (fields : List (String × Json)) :
    valuesOf (membersOf ((name, v) :: fields)) key =
      if name = key then v :: valuesOf (membersOf fields) key
      else valuesOf (membersOf fields) key := by
  unfold valuesOf membersOf
  rw [List.map_cons, List.filter_cons]
  by_cases h : name = key
  · subst h
    simp only [decide_true, if_true, List.map_cons]
  · simp only [Option.some.injEq, h, decide_false, Bool.false_eq_true, if_false]

variable {fields : List (String × Json)} {key : String} {v : Json}

/-- Nothing is found under a name that no field has. -/
theorem valuesOf_of_not_mem (h : key ∉ fields.map (·.1)) :
    valuesOf (membersOf fields) key = [] := by
  induction fields with
  | nil => rfl
  | cons m fields ih =>
    rw [List.map_cons, List.mem_cons, not_or] at h
    rw [valuesOf_membersOf_cons, if_neg (Ne.symm h.1), ih h.2]

/-- A field is found once if all fields have different names. -/
theorem valuesOf_of_mem (hfields : (fields.map (·.1)).Nodup) (h : (key, v) ∈ fields) :
    valuesOf (membersOf fields) key = [v] := by
  induction fields with
  | nil => cases h
  | cons m fields ih =>
    obtain ⟨hnew, hfields⟩ := List.nodup_cons.1 hfields
    rw [valuesOf_membersOf_cons]
    rcases List.mem_cons.1 h with rfl | h
    · rw [if_pos rfl, valuesOf_of_not_mem hnew]
    · have hname : m.1 ≠ key := by
        rintro rfl
        exact hnew (List.mem_map.2 ⟨_, h, rfl⟩)
      rw [if_neg hname, ih hfields h]

section

variable {α : Type} {read : Json → Option α} {default a : α}

/-- A field of a record with distinct names is read from its value. -/
theorem field?_of_mem (hfields : (fields.map (·.1)).Nodup) (h : (key, v) ∈ fields)
    (hread : read v = some a) : field? read (membersOf fields) key = some a := by
  rw [field?, valuesOf_of_mem hfields h]
  exact hread

/-- A field with a default is read from its value, if it is there. -/
theorem fieldOr?_of_mem (hfields : (fields.map (·.1)).Nodup) (h : (key, v) ∈ fields)
    (hread : read v = some a) : fieldOr? read default (membersOf fields) key = some a := by
  rw [fieldOr?, valuesOf_of_mem hfields h]
  exact hread

end

/-! ### What an event may skip -/

/-- A number that a double holds is plain at any depth. -/
theorem isPlain_natural {n : Nat} (h : n < 1 <<< Binary64.precision) (levels : Nat) :
    isPlain levels (natural n) = true := by
  have hscales : JsonNumber.scalesWithin n 0 = true := by
    have hone : Binary64.round (Nat.pow 10 0) = 1 := by decide
    have hbound : 1 <<< Binary64.precision ≤ Binary64.overflow := by decide +kernel
    rw [JsonNumber.scalesWithin, Binary64.round_of_lt h, hone, Nat.mul_one, Bool.and_eq_true,
      decide_eq_true_iff, decide_eq_true_iff]
    exact ⟨Nat.zero_le _, Nat.lt_of_lt_of_le h hbound⟩
  show (_ || _ || JsonNumber.scalesWithin n 0) = true
  rw [hscales, Bool.or_true]

/-- The number of a byte can be written. -/
theorem isPlain_natural_byte (b : UInt8) (levels : Nat) : isPlain levels (natural b.toNat) = true :=
  isPlain_natural (Nat.lt_trans b.toNat_lt (by decide)) levels

/-- A list can be written if its items can. -/
theorem areItemsPlain_of_forall {levels : Nat} {items : List Json}
    (h : ∀ item ∈ items, isPlain levels item = true) : areItemsPlain levels items = true := by
  induction items with
  | nil => rfl
  | cons item items ih =>
    obtain ⟨hitem, hitems⟩ := List.forall_mem_cons.1 h
    rw [areItemsPlain, hitem, ih hitems, Bool.and_self]

/-- A list of bytes can be written. -/
theorem isPlain_ofBytes (bytes : Bytes) (levels : Nat) :
    isPlain (levels + 1) (ofBytes bytes) = true := by
  rw [ofBytes, isPlain, areItemsPlain_of_forall, Bool.and_true]
  · exact decide_eq_true (Nat.succ_pos levels)
  · exact List.forall_mem_map.2 fun b _ => isPlain_natural_byte b _

/-- A record can be written if its values can. -/
theorem areMembersPlain_of_forall {levels : Nat} {fields : List (String × Json)}
    (h : ∀ m ∈ fields, isPlain levels m.2 = true) :
    areMembersPlain levels (membersOf fields) = true := by
  induction fields with
  | nil => rfl
  | cons m fields ih =>
    obtain ⟨hm, hfields⟩ := List.forall_mem_cons.1 h
    rw [membersOf, List.map_cons, areMembersPlain, hm, ← membersOf, ih hfields]
    rfl

end Json

/-! ### Records -/

namespace HostEvent

/-- An object with a tag and plain fields is read by its tag. -/
theorem ofJson?_tagged {kind : String} {fields : List (String × Json)}
    (hfields : ("kind" :: fields.map (·.1)).Nodup)
    (hplain : ∀ m ∈ fields, Json.isPlain fieldLevels m.2 = true) :
    ofJson? (.record (("kind", .text kind) :: fields)) =
      ofMembers? (Json.membersOf (("kind", .text kind) :: fields)) kind := by
  have hall : ∀ m ∈ ("kind", .text kind) :: fields, Json.isPlain fieldLevels m.2 = true :=
    List.forall_mem_cons.2 ⟨rfl, hplain⟩
  have hkind : Json.field? Json.text? (Json.membersOf (("kind", .text kind) :: fields)) "kind" =
      some kind :=
    Json.field?_of_mem hfields (List.mem_cons_self ..) rfl
  rw [Json.record_eq, ofJson?, if_pos (Json.areMembersPlain_of_forall hall), hkind,
    Option.bind_some]

/-- An event is read back from its value. -/
theorem ofJson?_toJson (e : HostEvent) : ofJson? e.toJson = some e := by
  have hbytes : ∀ bytes, Json.isPlain fieldLevels (.ofBytes bytes) = true :=
    fun bytes => Json.isPlain_ofBytes bytes _
  have hbyte : ∀ b : UInt8, Json.isPlain fieldLevels (.natural b.toNat) = true :=
    fun b => Json.isPlain_natural_byte b _
  cases e with
  | setup packet =>
    let fields := [("kind", Json.text "setup"), ("bytes", .ofBytes packet)]
    have hfields : (fields.map (·.1)).Nodup := (by decide : ["kind", "bytes"].Nodup)
    have hmem : ("bytes", .ofBytes packet) ∈ fields := .tail _ (.head _)
    rw [toJson, ofJson?_tagged hfields (List.forall_mem_singleton.2 (hbytes packet)), ofMembers?,
      if_pos rfl, Json.field?_of_mem hfields hmem (Json.bytes?_ofBytes packet), Option.map_some]
  | data ep bytes =>
    let fields := [("kind", Json.text "data"), ("ep", .natural ep.toNat), ("data", .ofBytes bytes)]
    have hfields : (fields.map (·.1)).Nodup := (by decide : ["kind", "ep", "data"].Nodup)
    have hep : ("ep", .natural ep.toNat) ∈ fields := .tail _ (.head _)
    have hdata : ("data", .ofBytes bytes) ∈ fields := .tail _ (.tail _ (.head _))
    rw [toJson, ofJson?_tagged hfields
      (List.forall_mem_cons.2 ⟨hbyte ep, List.forall_mem_singleton.2 (hbytes bytes)⟩), ofMembers?,
      if_neg (by decide), if_pos rfl, Json.field?_of_mem hfields hep (Json.byte?_natural ep),
      Json.field?_of_mem hfields hdata (Json.bytes?_ofBytes bytes)]
    rfl
  | bufferAvailable ep =>
    let fields := [("kind", Json.text "bufferAvailable"), ("ep", .natural ep.toNat)]
    have hfields : (fields.map (·.1)).Nodup := (by decide : ["kind", "ep"].Nodup)
    have hmem : ("ep", .natural ep.toNat) ∈ fields := .tail _ (.head _)
    rw [toJson, ofJson?_tagged hfields (List.forall_mem_singleton.2 (hbyte ep)), ofMembers?,
      if_neg (by decide), if_neg (by decide), if_pos rfl,
      Json.field?_of_mem hfields hmem (Json.byte?_natural ep), Option.map_some]

/-- Events are read back from their list. -/
theorem listOfJson?_listToJson (events : List HostEvent) :
    listOfJson? (listToJson events) = some events :=
  mapM_map_of_inverse ofJson?_toJson events

end HostEvent

namespace Request

/-- The fields that a request is written with. -/
def fields (r : Request) : List (String × Json) :=
  [("bmRequestType", .natural r.requestType.toNat), ("bRequest", .natural r.code.toNat),
    ("wValue", .natural r.value.toNat), ("wIndex", .natural r.index.toNat),
    ("wLength", .natural r.length.toNat)] ++
    if r.data.isEmpty then [] else [("data", .ofBytes r.data)]

/-- A request is written as the record of its fields. -/
theorem toJson_eq (r : Request) : r.toJson = .object (Json.membersOf r.fields) := rfl

/-- The fields of a request have distinct names. -/
theorem nodup_fields (r : Request) : (r.fields.map (·.1)).Nodup := by
  unfold fields
  split
  · exact (by decide : ["bmRequestType", "bRequest", "wValue", "wIndex", "wLength"].Nodup)
  · exact (by decide : ["bmRequestType", "bRequest", "wValue", "wIndex", "wLength", "data"].Nodup)

/-- The data stage is a field if there is one. -/
theorem valuesOf_data (r : Request) :
    Json.valuesOf (Json.membersOf r.fields) "data" =
      if r.data = [] then [] else [.ofBytes r.data] := by
  by_cases hempty : r.data = []
  · rw [if_pos hempty, fields, hempty]
    exact Json.valuesOf_of_not_mem
      (by decide : "data" ∉ ["bmRequestType", "bRequest", "wValue", "wIndex", "wLength"])
  · have hdata : ("data", .ofBytes r.data) ∈ r.fields := by
      rw [fields, if_neg (mt List.isEmpty_iff.1 hempty)]
      exact List.mem_append_right _ (List.mem_singleton_self _)
    rw [if_neg hempty, Json.valuesOf_of_mem r.nodup_fields hdata]

/-- A request is read back from its value. -/
theorem ofJson?_toJson (r : Request) : ofJson? r.toJson = some r := by
  have hdata : Json.fieldOr? Json.bytes? [] (Json.membersOf r.fields) "data" = some r.data := by
    rw [Json.fieldOr?, valuesOf_data]
    by_cases hempty : r.data = []
    · rw [if_pos hempty, hempty]
    · rw [if_neg hempty]
      exact Json.bytes?_ofBytes r.data
  have hfront : ∀ m ∈ r.fields.take 5, m ∈ r.fields := fun _ => List.mem_of_mem_take
  rw [toJson_eq, ofJson?, if_pos (Json.haveText_membersOf _),
    Json.field?_of_mem r.nodup_fields (hfront _ (.head _)) (Json.byte?_natural _),
    Json.field?_of_mem r.nodup_fields (hfront _ (.tail _ (.head _))) (Json.byte?_natural _),
    Json.field?_of_mem r.nodup_fields (hfront _ (.tail _ (.tail _ (.head _))))
      (Json.word?_natural _),
    Json.field?_of_mem r.nodup_fields (hfront _ (.tail _ (.tail _ (.tail _ (.head _)))))
      (Json.word?_natural _),
    Json.field?_of_mem r.nodup_fields (hfront _ (.tail _ (.tail _ (.tail _ (.tail _ (.head _))))))
      (Json.word?_natural _), hdata]
  rfl

end Request

namespace Policy

/-- A policy is read back from its value. -/
theorem ofJson?_toJson (p : Policy) : ofJson? p.toJson = some p := by
  let fields := [("other_recipient", Json.text p.otherRecipient.name),
    ("invalid_configuration", .text p.invalidConfiguration.name)]
  have hfields : (fields.map (·.1)).Nodup :=
    (by decide : ["other_recipient", "invalid_configuration"].Nodup)
  have hother : otherRecipient? (.text p.otherRecipient.name) = some p.otherRecipient := by
    cases p.otherRecipient <;> rfl
  have hinvalid : invalidConfiguration? (.text p.invalidConfiguration.name) =
      some p.invalidConfiguration := by
    cases p.invalidConfiguration <;> rfl
  rw [toJson, Json.record_eq, ofJson?, if_pos (Json.haveText_membersOf _),
    Json.fieldOr?_of_mem hfields (.head _) hother,
    Json.fieldOr?_of_mem hfields (.tail _ (.head _)) hinvalid]
  rfl

end Policy

namespace ProfileOptions

/-- An option that is set is written as its value, and one that is not set as `null`. -/
theorem nullable?_wordToJson (w : Option UInt16) :
    Json.nullable? Json.word? (wordToJson w) = some w :=
  Json.nullable?_elim (fun _ => Json.noConfusion) Json.word?_natural w

/-- The fields that options are written with. -/
def fields (o : ProfileOptions) : List (String × Json) :=
  [("vid", wordToJson o.vendorId), ("pid", wordToJson o.productId),
    ("rev", wordToJson o.revision), ("speed", o.speed.elim .null Speed.toJson)]

/-- Options are written as the record of their fields. -/
theorem toJson_eq (o : ProfileOptions) : o.toJson = .object (Json.membersOf o.fields) := rfl

/-- The fields of options have distinct names. -/
theorem nodup_fields (o : ProfileOptions) : (o.fields.map (·.1)).Nodup :=
  (by decide : fieldNames.Nodup)

/-- An option is written as `null` just if it is not set. -/
theorem eq_none_iff {o : ProfileOptions} {α : Type} {write : α → Json}
    (hnull : ∀ a, write a ≠ .null) {a : Option α} {key : String}
    (h : (key, a.elim .null write) ∈ o.fields) :
    a = none ↔ Json.valuesOf (Json.membersOf o.fields) key = [.null] := by
  rw [Json.valuesOf_of_mem o.nodup_fields h, List.singleton_inj]
  cases a with
  | none => exact iff_of_true rfl rfl
  | some a => exact iff_of_false (Option.some_ne_none a) (hnull a)

/-- Options are read back from their value. -/
theorem ofJson?_toJson (o : ProfileOptions) : ofJson? o.toJson = some o := by
  have hspeed : Json.nullable? Speed.ofJson? (o.speed.elim .null Speed.toJson) = some o.speed :=
    Json.nullable?_elim (fun _ => Json.noConfusion) (fun s => by cases s <;> rfl) _
  have hknown : ((Json.membersOf o.fields).all fun m => m.1.any fieldNames.contains) = true :=
    (Json.all_membersOf (·.any fieldNames.contains) o.fields).trans
      (by decide : fieldNames.all fieldNames.contains = true)
  rw [toJson_eq, ofJson?, if_pos hknown,
    Json.fieldOr?_of_mem o.nodup_fields (.head _) (nullable?_wordToJson _),
    Json.fieldOr?_of_mem o.nodup_fields (.tail _ (.head _)) (nullable?_wordToJson _),
    Json.fieldOr?_of_mem o.nodup_fields (.tail _ (.tail _ (.head _))) (nullable?_wordToJson _),
    Json.fieldOr?_of_mem o.nodup_fields (.tail _ (.tail _ (.tail _ (.head _)))) hspeed]
  rfl

end ProfileOptions

/-! ### Files -/

namespace Json

/-- The number of a byte is among the values that are written. -/
theorem written_byte (b : UInt8) : Written (natural b.toNat) :=
  .natural (Nat.lt_trans b.toNat_lt (by decide))

/-- The number of a word is among the values that are written. -/
theorem written_word (w : UInt16) : Written (natural w.toNat) :=
  .natural (Nat.lt_trans w.toNat_lt (by decide))

/-- A list of bytes is among the values that are written. -/
theorem written_ofBytes (bytes : Bytes) : Written (ofBytes bytes) :=
  .array (List.forall_mem_map.2 fun b _ => written_byte b)

end Json

open Json

/-- The value of an event is among the values that are written. -/
theorem HostEvent.written_toJson (e : HostEvent) : e.toJson.Written := by
  cases e with
  | setup packet =>
    exact .record (List.forall_mem_cons.2 ⟨.text _, List.forall_mem_singleton.2
      (written_ofBytes packet)⟩)
  | data ep bytes =>
    exact .record (List.forall_mem_cons.2 ⟨.text _, List.forall_mem_cons.2 ⟨written_byte ep,
      List.forall_mem_singleton.2 (written_ofBytes bytes)⟩⟩)
  | bufferAvailable ep =>
    exact .record (List.forall_mem_cons.2 ⟨.text _, List.forall_mem_singleton.2 (written_byte ep)⟩)

/-- The value of a request is among the values that are written. -/
theorem Request.written_toJson (r : Request) : r.toJson.Written := by
  refine .record (List.forall_mem_append.2 ⟨?_, ?_⟩)
  · simp only [List.forall_mem_cons, written_byte, written_word, List.not_mem_nil, false_implies,
      implies_true, and_self]
  · split
    · exact List.forall_mem_nil _
    · exact List.forall_mem_singleton.2 (written_ofBytes r.data)

/-- The value of a policy is among the values that are written. -/
theorem Policy.written_toJson (p : Policy) : p.toJson.Written :=
  .record (List.forall_mem_cons.2 ⟨.text _, List.forall_mem_singleton.2 (.text _)⟩)

/-- The value of options is among the values that are written. -/
theorem ProfileOptions.written_toJson (o : ProfileOptions) : o.toJson.Written := by
  have hword : ∀ w, Written (wordToJson w) := by
    intro w
    cases w with
    | none => exact .null
    | some w => exact written_word w
  have hspeed : Written (o.speed.elim .null Speed.toJson) := by
    cases o.speed with
    | none => exact .null
    | some speed => exact .text _
  refine .record ?_
  simp only [List.forall_mem_cons, hword, hspeed, List.not_mem_nil, false_implies, implies_true,
    and_self]

namespace Json

/-- The values of the fields with a name. -/
def valuesAt (v : Json) (name : String) : List Json :=
  match v with
  | object members => valuesOf members name
  | _ => []

/-- What is written is read back, as a value and from the text of a file. -/
structure ReadsBack {α : Type} (write : α → Json) (read : Json → Option α) (a : α) : Prop where
  value : read (write a) = some a
  file : (parse? (write a).pretty).bind read = some a

/-- What is read back as a value is read back from the text as well. -/
theorem readsBack_of_written {α : Type} {write : α → Json} {read : Json → Option α} {a : α}
    (hwritten : (write a).Written) (hread : read (write a) = some a) : ReadsBack write read a := by
  refine ⟨hread, ?_⟩
  rw [hwritten.parse?_pretty, Option.bind_some, hread]

/-- **What is written is read back.**  Lists of events, requests, policies and options are read back
as they were, whatever they hold, from values and from files.  A request without a data stage is
written without that field and comes back without data; an option that is not set is written as
`null` and comes back not set. -/
theorem records_readBack (events : List HostEvent) (r : Request) (policy : Policy)
    (o : ProfileOptions) :
    ReadsBack HostEvent.listToJson HostEvent.listOfJson? events ∧
      ReadsBack Request.toJson Request.ofJson? r ∧
      ReadsBack Policy.toJson Policy.ofJson? policy ∧
      ReadsBack ProfileOptions.toJson ProfileOptions.ofJson? o ∧
      (r.data = [] ↔ r.toJson.valuesAt "data" = []) ∧
      (o.vendorId = none ↔ o.toJson.valuesAt "vid" = [.null]) ∧
      (o.productId = none ↔ o.toJson.valuesAt "pid" = [.null]) ∧
      (o.revision = none ↔ o.toJson.valuesAt "rev" = [.null]) ∧
      (o.speed = none ↔ o.toJson.valuesAt "speed" = [.null]) := by
  have hevents : (HostEvent.listToJson events).Written :=
    .array (List.forall_mem_map.2 fun e _ => e.written_toJson)
  have hdata : r.data = [] ↔ valuesOf (membersOf r.fields) "data" = [] := by
    rw [Request.valuesOf_data]
    split
    · next hempty => exact iff_of_true hempty rfl
    · next hempty => exact iff_of_false hempty (List.cons_ne_nil _ _)
  have hnumber : ∀ w : UInt16, natural w.toNat ≠ null := fun _ => Json.noConfusion
  have hname : ∀ speed : Speed, speed.toJson ≠ null := fun _ => Json.noConfusion
  exact ⟨readsBack_of_written hevents (HostEvent.listOfJson?_listToJson events),
    readsBack_of_written r.written_toJson r.ofJson?_toJson,
    readsBack_of_written policy.written_toJson policy.ofJson?_toJson,
    readsBack_of_written o.written_toJson o.ofJson?_toJson, hdata,
    ProfileOptions.eq_none_iff hnumber (.head _),
    ProfileOptions.eq_none_iff hnumber (.tail _ (.head _)),
    ProfileOptions.eq_none_iff hnumber (.tail _ (.tail _ (.head _))),
    ProfileOptions.eq_none_iff hname (.tail _ (.tail _ (.tail _ (.head _))))⟩

end Json

end UsbGadget
