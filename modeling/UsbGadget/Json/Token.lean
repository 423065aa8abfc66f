/-
# JSON tokens

The words of a JSON text.  A run of letters, digits, signs and points is one
word, which must be a number or one of `true`, `false` and `null`.  In a string
no character below a space may stand unescaped, and an escape is one of
`\" \\ \/ \b \f \n \r \t \uXXXX`.

* `JsonNumber.ofChars?` reads a number;
* `JsonNumber.keepDigits_lt`, `JsonNumber.ofDigits_keepDigits`: what is kept of its digits fits
  64 bits, and followed by those that are left it is the number itself;
* `string?` reads the rest of a string, as UTF-16 code units;
* `tokens?` reads a whole text.
-/

import UsbGadget.Json.Value
import UsbGadget.Text.Utf16

namespace UsbGadget

/-- A word of a JSON text. -/
inductive JsonToken where
  | openArray
  | closeArray
  | openObject
  | closeObject
  | colon
  | comma
  | scalar (value : Json)

namespace JsonNumber

/-- The number whose decimal digits are those of `n` and then the given ones. -/
def ofDigits (n : Nat) (digits : List Char) : Nat :=
  digits.foldl (fun n c => n * 10 + (c.toNat - '0'.toNat)) n

/-- The digits at the front of a text, and the rest. -/
def splitDigits (cs : List Char) : List Char × List Char :=
  (cs.takeWhile Char.isDigit, cs.dropWhile Char.isDigit)

/-- Whether digits are a whole part: no zero before another digit. -/
def isWhole : List Char → Bool
  | [] => false
  | [_] => true
  | c :: _ => c != '0'

/-- Reads a fraction, if there is one: its digits and the rest. -/
def fraction? : List Char → Option (Option (List Char) × List Char)
  | '.' :: cs =>
    match splitDigits cs with
    | ([], _) => none
    | (digits, rest) => some (some digits, rest)
  | cs => some (none, cs)

/-- Reads the digits of an exponent, to the end of the word. -/
def exponentDigits? (negative : Bool) (cs : List Char) : Option Int :=
  match splitDigits cs with
  | ([], _) => none
  | (digits, []) => some (if negative then -(ofDigits 0 digits : Int) else ofDigits 0 digits)
  | (_, _ :: _) => none

/-- Reads an exponent, if there is one, to the end of the word. -/
def exponent? : List Char → Option (Option Int)
  | [] => some none
  | c :: cs =>
    if c = 'e' || c = 'E' then
      match cs with
      | '+' :: cs => (exponentDigits? false cs).map some
      | '-' :: cs => (exponentDigits? true cs).map some
      | cs => (exponentDigits? false cs).map some
    else none

/-- The least number that does not fit 64 bits. -/
def coefficientBound : Nat := 1 <<< 64

/-- Appends digits to a number while it fits 64 bits: the number, and the digits that are left. -/
def keepDigits (n : Nat) : List Char → Nat × List Char
  | [] => (n, [])
  | c :: cs =>
    let longer := ofDigits n [c]
    if longer < coefficientBound then keepDigits longer cs else (n, c :: cs)

/-- The digits that are kept stay below the bound. -/
theorem keepDigits_lt {n : Nat} (h : n < coefficientBound) (cs : List Char) :
    (keepDigits n cs).1 < coefficientBound := by
  fun_induction keepDigits n cs with
  | case1 => exact h
  | case2 _ _ _ _ hlt ih => exact ih hlt
  | case3 => exact h

/-- Keeping digits loses none of the number. -/
theorem ofDigits_keepDigits (n : Nat) (cs : List Char) :
    ofDigits (keepDigits n cs).1 (keepDigits n cs).2 = ofDigits n cs := by
  fun_induction keepDigits n cs with
  | case1 => rfl
  | case2 n c cs _ _ ih => exact ih
  | case3 => rfl

/-- Reads a number without its sign.  A whole digit that is not kept still counts as a factor of
ten, a digit of the fraction that is not kept is lost. -/
def unsigned? (negative : Bool) (cs : List Char) : Option JsonNumber := do
  let (whole, rest) := splitDigits cs
  if !isWhole whole then none
  let (fraction, rest) ← fraction? rest
  let exponent ← exponent? rest
  let digits := fraction.getD []
  let (n, skipped) := keepDigits 0 whole
  let (coefficient, lost) := keepDigits n digits
  return {
    negative := negative
    coefficient := coefficient
    exponent := exponent.getD 0 + skipped.length + lost.length - digits.length
    integral := fraction.isNone && exponent.isNone && skipped.isEmpty }

/-- Reads a number. -/
def ofChars? : List Char → Option JsonNumber
  | '-' :: cs => unsigned? true cs
  | cs => unsigned? false cs

end JsonNumber

namespace JsonToken

/-- The value of a hexadecimal digit. -/
def hexDigit? (c : Char) : Option UInt16 :=
  if c.isDigit then some (UInt16.ofNat (c.toNat - '0'.toNat))
  else if 'a' ≤ c && c ≤ 'f' then some (UInt16.ofNat (c.toNat - 'a'.toNat + 10))
  else if 'A' ≤ c && c ≤ 'F' then some (UInt16.ofNat (c.toNat - 'A'.toNat + 10))
  else none

/-- The code unit of four hexadecimal digits. -/
def hexUnit? (a b c d : Char) : Option UInt16 := do
  let a ← hexDigit? a
  let b ← hexDigit? b
  let c ← hexDigit? c
  let d ← hexDigit? d
  return a * 0x1000 + b * 0x100 + c * 0x10 + d

/-- The code unit that a letter after a backslash stands for. -/
def escaped? (c : Char) : Option UInt16 :=
  if c = '"' || c = '\\' || c = '/' then some (UInt16.ofNat c.toNat)
  else if c = 'b' then some 0x08
  else if c = 'f' then some 0x0c
  else if c = 'n' then some 0x0a
  else if c = 'r' then some 0x0d
  else if c = 't' then some 0x09
  else none

/-- Reads a string after its opening quote: its code units, and the rest of the text. -/
def string? : List Char → Option (List UInt16 × List Char)
  | [] => none
  | '\\' :: 'u' :: a :: b :: c :: d :: rest => do
    let unit ← hexUnit? a b c d
    let (units, rest) ← string? rest
    return (unit :: units, rest)
  | '\\' :: c :: rest => do
    let unit ← escaped? c
    let (units, rest) ← string? rest
    return (unit :: units, rest)
  | c :: rest =>
    if c = '"' then some ([], rest)
    else if c = '\\' || c.toNat < 0x20 then none
    else do
      let (units, rest) ← string? rest
      return (Utf16.units c ++ units, rest)

/-- Reading a string takes at least one character. -/
theorem string?_length {cs : List Char} {units : List UInt16} {rest : List Char}
    (h : string? cs = some (units, rest)) : rest.length < cs.length := by
  fun_induction string? cs generalizing units rest with
  | case1 => simp at h
  | case2 a b c d r ih =>
    simp only [Option.bind_eq_bind, Option.bind_eq_some_iff, Option.pure_def, Option.some.injEq,
      Prod.mk.injEq, Prod.exists] at h
    obtain ⟨_, _, us, r', hr, _, rfl⟩ := h
    have := ih hr
    simp only [List.length_cons]; omega
  | case3 c r _ ih =>
    simp only [Option.bind_eq_bind, Option.bind_eq_some_iff, Option.pure_def, Option.some.injEq,
      Prod.mk.injEq, Prod.exists] at h
    obtain ⟨_, _, us, r', hr, _, rfl⟩ := h
    have := ih hr
    simp only [List.length_cons]; omega
  | case4 => simp_all
  | case5 => simp at h
  | case6 c r _ _ _ _ ih =>
    simp only [Option.bind_eq_bind, Option.bind_eq_some_iff, Option.pure_def, Option.some.injEq,
      Prod.mk.injEq, Prod.exists] at h
    obtain ⟨us, r', hr, _, rfl⟩ := h
    have := ih hr
    simp only [List.length_cons]; omega

/-- The string with the given code units. -/
def ofUnits (units : List UInt16) : Json := .string ((Utf16.decode units).map String.ofList)

/-- Whether a character stands between tokens without meaning. -/
def isSpace (c : Char) : Bool := c = ' ' || c = '\t' || c = '\n' || c = '\r'

/-- The mark that a character is. -/
def mark? (c : Char) : Option JsonToken :=
  if c = '[' then some openArray
  else if c = ']' then some closeArray
  else if c = '\x7b' then some openObject
  else if c = '\x7d' then some closeObject
  else if c = ':' then some colon
  else if c = ',' then some comma
  else none

/-- Whether a character belongs to a word. -/
def isWordChar (c : Char) : Bool := c.isAlphanum || c = '+' || c = '-' || c = '.'

/-- The value that a word stands for. -/
def word? (cs : List Char) : Option Json :=
  if cs = "true".toList then some (.bool true)
  else if cs = "false".toList then some (.bool false)
  else if cs = "null".toList then some .null
  else (JsonNumber.ofChars? cs).map .number

/-- The tokens of a text. -/
def tokens? : List Char → Option (List JsonToken)
  | [] => some []
  | c :: cs =>
    if isSpace c then tokens? cs
    else if c = '"' then
      match h : string? cs with
      | none => none
      | some (units, rest) =>
        have : rest.length < cs.length := string?_length h
        (tokens? rest).map (scalar (ofUnits units) :: ·)
    else
      match mark? c with
      | some m => (tokens? cs).map (m :: ·)
      | none =>
        if isWordChar c then
          match word? (c :: cs.takeWhile isWordChar) with
          | none => none
          | some v =>
            have := (List.dropWhile_sublist (l := cs) isWordChar).length_le
            (tokens? (cs.dropWhile isWordChar)).map (scalar v :: ·)
        else none
termination_by cs => cs.length

end JsonToken
end UsbGadget
