/-
# Descriptions of values

One-line descriptions for people: a record is its name and its fields in braces,
ending in `..` when fields are left out, a list stands in brackets, an optional
value is `None` or `Some(…)`, and text stands in quotes.
-/

import UsbGadget.Text.Hex

namespace UsbGadget
namespace Describe

/-- The escape of an ASCII character inside quotes. -/
def escape (c : Char) : String :=
  if c = '"' then "\\\""
  else if c = '\\' then "\\\\"
  else if c = '\n' then "\\n"
  else if c = '\r' then "\\r"
  else if c = '\t' then "\\t"
  else if c.toNat = 0 then "\\0"
  else if c.toNat < 0x20 || c.toNat = 0x7f then "\\u\x7b" ++ Hex.digits 1 c.toNat ++ "\x7d"
  else c.toString

/-- Text in quotes. -/
def quoted (s : String) : String := "\"" ++ String.join (s.toList.map escape) ++ "\""

/-- Descriptions in brackets. -/
def list (items : List String) : String := "[" ++ ", ".intercalate items ++ "]"

/-- An optional description. -/
def optional : Option String → String
  | none => "None"
  | some s => "Some(" ++ s ++ ")"

/-- A record with all its fields. -/
def record (name : String) (fields : List (String × String)) : String :=
  name ++ " \x7b " ++ ", ".intercalate (fields.map fun f => f.1 ++ ": " ++ f.2) ++ " \x7d"

/-- A record some of whose fields are left out. -/
def openRecord (name : String) (fields : List (String × String)) : String :=
  name ++ " \x7b " ++ ", ".intercalate (fields.map fun f => f.1 ++ ": " ++ f.2) ++ ", .. \x7d"

/-- A truth value. -/
def bool (b : Bool) : String := if b then "true" else "false"

end Describe
end UsbGadget
