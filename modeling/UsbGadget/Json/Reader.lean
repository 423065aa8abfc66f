/-
# Reading JSON

A value is put together from tokens one by one.  The reader keeps the arrays and
objects that are still open, the innermost first, and what may come next.

| next | means |
| --- | --- |
| `value` | a value must come |
| `item` | a value or the end of the array that was just opened |
| `key` | a key must come |
| `member` | a key or the end of the object that was just opened |
| `colon` | the colon after a key |
| `separator` | a comma or the end of the innermost bracket |
| `finished` | nothing more |
-/

import UsbGadget.Json.Token

namespace UsbGadget
namespace JsonReader

/-- A bracket that is still open, with what it holds so far, the latest first. -/
inductive Frame where
  | array (items : List Json)
  | object (members : List (Option String × Json)) (key : Option String)

/-- What may come next. -/
inductive Next where
  | value
  | item
  | key
  | member
  | colon
  | separator
  | finished (result : Json)

/-- The open brackets and what may come next. -/
structure State where
  frames : List Frame := []
  next : Next := .value

/-- The state after a value is complete. -/
def complete (v : Json) : List Frame → State
  | [] => ⟨[], .finished v⟩
  | .array items :: frames => ⟨.array (v :: items) :: frames, .separator⟩
  | .object members key :: frames => ⟨.object ((key, v) :: members) none :: frames, .separator⟩

/-- The state after the innermost bracket is closed, if it is of that sort. -/
def close? : List Frame → JsonToken → Option State
  | .array items :: frames, .closeArray => some (complete (.array items.reverse) frames)
  | .object members _ :: frames, .closeObject => some (complete (.object members.reverse) frames)
  | _, _ => none

/-- The state after a token where a value may come. -/
def value? (frames : List Frame) : JsonToken → Option State
  | .openArray => some ⟨.array [] :: frames, .item⟩
  | .openObject => some ⟨.object [] none :: frames, .member⟩
  | .scalar v => some (complete v frames)
  | _ => none

/-- The state after a token where a key may come. -/
def key? : List Frame → JsonToken → Option State
  | .object members _ :: frames, .scalar (.string s) => some ⟨.object members s :: frames, .colon⟩
  | _, _ => none

/-- The state after a comma. -/
def comma? : List Frame → Option State
  | .array items :: frames => some ⟨.array items :: frames, .value⟩
  | .object members key :: frames => some ⟨.object members key :: frames, .key⟩
  | [] => none

/-- The state after one more token. -/
def step (s : State) (t : JsonToken) : Option State :=
  match s.next, t with
  | .value, t => value? s.frames t
  | .item, t => (close? s.frames t).or (value? s.frames t)
  | .key, t => key? s.frames t
  | .member, t => (close? s.frames t).or (key? s.frames t)
  | .colon, .colon => some { s with next := .value }
  | .colon, _ => none
  | .separator, .comma => comma? s.frames
  | .separator, t => close? s.frames t
  | .finished _, _ => none

/-- The value that has been read, if it is complete. -/
def State.result? (s : State) : Option Json :=
  match s.next with
  | .finished v => some v
  | _ => none

end JsonReader

/-- Reads a text that holds one value and nothing else but white space. -/
def Json.parse? (text : String) : Option Json := do
  let tokens ← JsonToken.tokens? text.toList
  let state ← tokens.foldlM JsonReader.step {}
  state.result?

end UsbGadget
