/-
# Mutation tables

A mutation table is an object that maps names of stages to bytes.  The last
value of a repeated key counts.  The keys are then read in their order, with the
white space around them taken off; the first that names no stage is reported,
and of two keys that name the same stage the later one counts.
-/

import UsbGadget.Json.Records

namespace UsbGadget
namespace MutationTable

/-- Reads one entry. -/
def entry? (member : Option String × Json) : Option (String × Bytes) := do
  return (← member.1, ← Json.bytes? member.2)

/-- Reads the entries, in the order of their keys. -/
def entries? : Json → Option (Table String Bytes)
  | .object members => (members.mapM entry?).map Table.ofList
  | _ => none

/-- Adds an entry under the stage that its key names. -/
def add (stages : Table Stage Bytes) (entry : String × Bytes) :
    Except Stage.Unknown (Table Stage Bytes) := do
  return stages.insert (← Stage.ofName entry.1) entry.2

/-- The bytes by stage, if every key names one. -/
def byStage (table : Table String Bytes) : Except Stage.Unknown (Table Stage Bytes) :=
  table.entries.foldlM add {}

/-- The script that replaces the stages of a table. -/
def script (table : Table Stage Bytes) : Script where
  substitution stage := (table.find? stage).map .replace

end MutationTable
end UsbGadget
