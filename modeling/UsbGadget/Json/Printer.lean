/-
# Writing JSON

Values are written with one item to a line, indented by two spaces for every
bracket, and an empty bracket as `[]` or a pair of braces.
-/

import UsbGadget.Json.Value
import UsbGadget.Text.Hex

namespace UsbGadget
namespace Json

/-- The escape of a character in a string. -/
def escape (c : Char) : String :=
  if c = '"' then "\\\""
  else if c = '\\' then "\\\\"
  else if c = '\n' then "\\n"
  else if c = '\r' then "\\r"
  else if c = '\t' then "\\t"
  else if c.toNat = 0x08 then "\\b"
  else if c.toNat = 0x0c then "\\f"
  else if c.toNat < 0x20 then "\\u" ++ Hex.digits 4 c.toNat
  else c.toString

/-- Text in quotes. -/
def quoted (s : String) : String := "\"" ++ String.join (s.toList.map escape) ++ "\""

/-- A number as it is written. -/
def numberText (n : JsonNumber) : String :=
  (if n.negative then "-" else "") ++ toString n.coefficient ++
    (if n.integral then "" else "e" ++ toString n.exponent)

/-- The start of a line that is `depth` brackets deep. -/
def newLine (depth : Nat) : String := "\n" ++ String.ofList (List.replicate (2 * depth) ' ')

/-- A bracket around lines, of which each is one bracket deeper than `depth`. -/
def bracket (left right : String) (depth : Nat) : List String → String
  | [] => left ++ right
  | lines =>
    left ++ ",".intercalate (lines.map (newLine (depth + 1) ++ ·)) ++ newLine depth ++ right

mutual

/-- The text of a value that stands `depth` brackets deep. -/
def prettyAt (depth : Nat) : Json → String
  | null => "null"
  | bool b => if b then "true" else "false"
  | number n => numberText n
  | string s => quoted (s.getD "")
  | array items => bracket "[" "]" depth (prettyItems (depth + 1) items)
  | object members => bracket "\x7b" "\x7d" depth (prettyMembers (depth + 1) members)

/-- The texts of items. -/
def prettyItems (depth : Nat) : List Json → List String
  | [] => []
  | item :: items => prettyAt depth item :: prettyItems depth items

/-- The texts of members. -/
def prettyMembers (depth : Nat) : List (Option String × Json) → List String
  | [] => []
  | (key, value) :: members =>
    (quoted (key.getD "") ++ ": " ++ prettyAt depth value) :: prettyMembers depth members

end

/-- The text of a value. -/
def pretty (v : Json) : String := prettyAt 0 v

end Json
end UsbGadget
