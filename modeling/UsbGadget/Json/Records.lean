/-
# Records in JSON

How the values of this library are written in files and read back.

| value | form |
| --- | --- |
| host event | an object tagged by `kind`, or an array of tag and fields |
| request | an object with the standard field names, or an array of the fields |
| policy, options | an object in which every field may be missing, or an array of the fields |
| stage, speed, choice | its name, or an object with the name as only key and `null` as value |

A field that is known may not be repeated; one that is not known is skipped,
except among options, where it is an error.  An event is read as a whole before
its tag is looked at, so that even what it skips has to be plain.
-/

import UsbGadget.HostEvent
import UsbGadget.Json.Reader
import UsbGadget.Profile.Options

namespace UsbGadget

namespace Json

/-- Members of an object. -/
abbrev Members := List (Option String × Json)

/-- The values of a field. -/
def valuesOf (members : Members) (key : String) : List Json :=
  (members.filter fun m => m.1 = some key).map (·.2)

/-- The value of a field, read by `read`. -/
def field? {α : Type} (read : Json → Option α) (members : Members) (key : String) : Option α :=
  match valuesOf members key with
  | [v] => read v
  | _ => none

/-- The value of a field, read by `read`, or a default if the field is missing. -/
def fieldOr? {α : Type} (read : Json → Option α) (default : α) (members : Members) (key : String) :
    Option α :=
  match valuesOf members key with
  | [] => some default
  | [v] => read v
  | _ => none

/-- Whether every key has a text. -/
def haveText (members : Members) : Bool := members.all (·.1.isSome)

/-- A number of one byte. -/
def byte? (v : Json) : Option UInt8 := (v.natural? 0xff).map UInt8.ofNat

/-- A number of two bytes. -/
def word? (v : Json) : Option UInt16 := (v.natural? 0xffff).map UInt16.ofNat

/-- A list of bytes. -/
def bytes? : Json → Option Bytes
  | array items => items.mapM byte?
  | _ => none

/-- A value or `null`. -/
def nullable? {α : Type} (read : Json → Option α) : Json → Option (Option α)
  | null => some none
  | v => (read v).map some

/-- The one of `all` with the given name. -/
def named? {α : Type} (all : List α) (name : α → String) (s : String) : Option α :=
  all.find? fun a => name a = s

/-- One of `all`, by its name. -/
def choice? {α : Type} (all : List α) (name : α → String) : Json → Option α
  | string (some s) => named? all name s
  | object [(some s, null)] => named? all name s
  | _ => none

/-- A list of bytes as a value. -/
def ofBytes (bytes : Bytes) : Json := array (bytes.map fun b => natural b.toNat)

end Json

namespace Speed

/-- Reads a speed. -/
def ofJson? : Json → Option Speed := Json.choice? all name

/-- Writes a speed. -/
def toJson (s : Speed) : Json := .text s.name

end Speed

namespace Stage

/-- Reads a stage, whose name must be exact. -/
def ofJson? : Json → Option Stage := Json.choice? all name

/-- Writes a stage. -/
def toJson (s : Stage) : Json := .text s.name

end Stage

namespace HostEvent

/-- How deep brackets may be nested in a field of an event: 127 levels, less the list of events and
the event itself. -/
def fieldLevels : Nat := 125

/-- Reads an event whose tag is known from its other fields. -/
def ofMembers? (members : Json.Members) (kind : String) : Option HostEvent :=
  if kind = "setup" then (Json.field? Json.bytes? members "bytes").map .setup
  else if kind = "data" then do
    let ep ← Json.field? Json.byte? members "ep"
    let bytes ← Json.field? Json.bytes? members "data"
    return .data ep bytes
  else if kind = "bufferAvailable" then (Json.field? Json.byte? members "ep").map .bufferAvailable
  else none

/-- Reads an event from a list of its tag and its fields. -/
def ofItems? : List Json → Option HostEvent
  | [.string (some "setup"), bytes] => (Json.bytes? bytes).map .setup
  | [.string (some "data"), ep, bytes] => do
    let ep ← Json.byte? ep
    let bytes ← Json.bytes? bytes
    return .data ep bytes
  | [.string (some "bufferAvailable"), ep] => (Json.byte? ep).map .bufferAvailable
  | _ => none

/-- Reads an event. -/
def ofJson? : Json → Option HostEvent
  | .object members =>
    if Json.areMembersPlain fieldLevels members then
      (Json.field? Json.text? members "kind").bind (ofMembers? members)
    else none
  | .array items => ofItems? items
  | _ => none

/-- Writes an event. -/
def toJson : HostEvent → Json
  | setup packet => .record [("kind", .text "setup"), ("bytes", .ofBytes packet)]
  | data ep bytes =>
    .record [("kind", .text "data"), ("ep", .natural ep.toNat), ("data", .ofBytes bytes)]
  | bufferAvailable ep => .record [("kind", .text "bufferAvailable"), ("ep", .natural ep.toNat)]

/-- Reads a list of events. -/
def listOfJson? : Json → Option (List HostEvent)
  | .array items => items.mapM ofJson?
  | _ => none

/-- Writes a list of events. -/
def listToJson (events : List HostEvent) : Json := .array (events.map toJson)

end HostEvent

namespace Request

/-- Reads a request. -/
def ofJson? : Json → Option Request
  | .object members =>
    if Json.haveText members then do
      let requestType ← Json.field? Json.byte? members "bmRequestType"
      let code ← Json.field? Json.byte? members "bRequest"
      let value ← Json.field? Json.word? members "wValue"
      let index ← Json.field? Json.word? members "wIndex"
      let length ← Json.field? Json.word? members "wLength"
      let data ← Json.fieldOr? Json.bytes? [] members "data"
      return ⟨requestType, code, value, index, length, data⟩
    else none
  | .array (requestType :: code :: value :: index :: length :: rest) => do
    let requestType ← Json.byte? requestType
    let code ← Json.byte? code
    let value ← Json.word? value
    let index ← Json.word? index
    let length ← Json.word? length
    match rest with
    | [] => return ⟨requestType, code, value, index, length, []⟩
    | [data] => return ⟨requestType, code, value, index, length, ← Json.bytes? data⟩
    | _ => none
  | _ => none

/-- Writes a request; an empty data stage is left out. -/
def toJson (r : Request) : Json :=
  .record <|
    [("bmRequestType", .natural r.requestType.toNat), ("bRequest", .natural r.code.toNat),
      ("wValue", .natural r.value.toNat), ("wIndex", .natural r.index.toNat),
      ("wLength", .natural r.length.toNat)] ++
      if r.data.isEmpty then [] else [("data", .ofBytes r.data)]

end Request

namespace Policy

/-- Reads a choice for the other recipient. -/
def otherRecipient? : Json → Option OtherRecipientPolicy :=
  Json.choice? OtherRecipientPolicy.all OtherRecipientPolicy.name

/-- Reads a choice for a configuration that does not exist. -/
def invalidConfiguration? : Json → Option InvalidConfigurationPolicy :=
  Json.choice? InvalidConfigurationPolicy.all InvalidConfigurationPolicy.name

/-- Reads a policy. -/
def ofJson? : Json → Option Policy
  | .object members =>
    if Json.haveText members then do
      let other ← Json.fieldOr? otherRecipient? .firstInterface members "other_recipient"
      let invalid ←
        Json.fieldOr? invalidConfiguration? .fallbackToFirst members "invalid_configuration"
      return ⟨other, invalid⟩
    else none
  | .array [] => some {}
  | .array [other] => (otherRecipient? other).map fun other => { otherRecipient := other }
  | .array [other, invalid] => do return ⟨← otherRecipient? other, ← invalidConfiguration? invalid⟩
  | _ => none

/-- Writes a policy. -/
def toJson (p : Policy) : Json :=
  .record
    [("other_recipient", .text p.otherRecipient.name),
      ("invalid_configuration", .text p.invalidConfiguration.name)]

end Policy

namespace ProfileOptions

/-- The fields of options. -/
def fieldNames : List String := ["vid", "pid", "rev", "speed"]

/-- Reads options from the values of their fields, as many as there are. -/
def ofItems? : List Json → Option ProfileOptions
  | [] => some {}
  | [vid] => do return { vendorId := ← Json.nullable? Json.word? vid }
  | [vid, pid] => do
    return { vendorId := ← Json.nullable? Json.word? vid,
             productId := ← Json.nullable? Json.word? pid }
  | [vid, pid, rev] => do
    return { vendorId := ← Json.nullable? Json.word? vid,
             productId := ← Json.nullable? Json.word? pid,
             revision := ← Json.nullable? Json.word? rev }
  | [vid, pid, rev, speed] => do
    return { vendorId := ← Json.nullable? Json.word? vid,
             productId := ← Json.nullable? Json.word? pid,
             revision := ← Json.nullable? Json.word? rev,
             speed := ← Json.nullable? Speed.ofJson? speed }
  | _ => none

/-- Reads options. -/
def ofJson? : Json → Option ProfileOptions
  | .object members =>
    if members.all fun m => m.1.any fieldNames.contains then do
      let vid ← Json.fieldOr? (Json.nullable? Json.word?) none members "vid"
      let pid ← Json.fieldOr? (Json.nullable? Json.word?) none members "pid"
      let rev ← Json.fieldOr? (Json.nullable? Json.word?) none members "rev"
      let speed ← Json.fieldOr? (Json.nullable? Speed.ofJson?) none members "speed"
      return ⟨vid, pid, rev, speed⟩
    else none
  | .array items => ofItems? items
  | _ => none

/-- An optional number as a value. -/
def wordToJson (w : Option UInt16) : Json := w.elim .null fun w => .natural w.toNat

/-- Writes options. -/
def toJson (o : ProfileOptions) : Json :=
  .record
    [("vid", wordToJson o.vendorId), ("pid", wordToJson o.productId),
      ("rev", wordToJson o.revision), ("speed", o.speed.elim .null Speed.toJson)]

end ProfileOptions

/-- Writes a call to the transport. -/
def Call.toJson : Call → Json
  | connect => .record [("kind", .text "connect")]
  | disconnect => .record [("kind", .text "disconnect")]
  | send ep data =>
    .record [("kind", .text "send"), ("ep", .natural ep.toNat), ("data", .ofBytes data)]
  | stall => .record [("kind", .text "stallEp0")]
  | acknowledge => .record [("kind", .text "ackStatusStage")]

end UsbGadget
