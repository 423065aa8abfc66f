/-
# The string table of a device

Strings have indices from 1, in the order in which they were registered, and
equal strings share one.  The table holds 255 strings; any further one gets the
last index.  Index 0 stands for no string.
-/

namespace UsbGadget

/-- The strings of a device. -/
structure StringTable where
  strings : List String := []
  deriving DecidableEq, Repr

namespace StringTable

/-- The most strings that one-byte indices reach. -/
def capacity : Nat := 255

/-- The index of a string, which is added if it is new and there is room. -/
def register (t : StringTable) (s : String) : UInt8 × StringTable :=
  match t.strings.findIdx? (· = s) with
  | some position => (UInt8.ofNat (position + 1), t)
  | none =>
    if t.strings.length < capacity then
      (UInt8.ofNat (t.strings.length + 1), ⟨t.strings ++ [s]⟩)
    else (UInt8.ofNat capacity, t)

/-- The index of a name, 0 if there is none. -/
def registerName (t : StringTable) : Option String → UInt8 × StringTable
  | none => (0, t)
  | some s => t.register s

/-- The string with an index.  An index past the end finds the first string. -/
def get? (t : StringTable) (index : UInt8) : Option String :=
  if index = 0 then none else t.strings[index.toNat - 1]?.or t.strings.head?

/-- Registers strings one after the other; the index of the last of them. -/
def registerAll (t : StringTable) : List String → Option UInt8 × StringTable
  | [] => (none, t)
  | [s] => let (index, t) := t.register s; (some index, t)
  | s :: rest => (t.register s).2.registerAll rest

end StringTable
end UsbGadget
