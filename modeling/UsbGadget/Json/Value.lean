/-
# JSON values

A value as it is read: members of an object keep their order and may repeat a
key.  A string may escape one half of a surrogate pair; such a string has no
text, and `string none` stands for it.

Of a number the reader keeps the digits that fit 64 bits and the power of ten
that goes with them.  Only a whole number that is written out and kept in full
is `integral`; all others stand for doubles.  The double is the product of two,
one nearest to the kept digits and one nearest to the power of ten, so that a
number near the bound of the doubles can be out of range although it is below
the bound itself.

* `natural?` reads a number that is written as a natural number;
* `isPlain levels` holds when every string in a value has a text, every number
  fits a double and brackets are nested at most `levels` deep.
-/

import UsbGadget.Binary64

namespace UsbGadget

/-- A number as it is kept: `coefficient` times ten to the power of `exponent`. -/
structure JsonNumber where
  negative : Bool := false
  coefficient : Nat
  exponent : Int := 0
  integral : Bool := true
  deriving DecidableEq, Repr

/-- A JSON value. -/
inductive Json where
  | null
  | bool (b : Bool)
  | number (n : JsonNumber)
  | string (text : Option String)
  | array (items : List Json)
  | object (members : List (Option String × Json))

namespace JsonNumber

/-- The highest power of ten that is a double. -/
def maxExponent : Nat := 308

/-- Whether a number times ten to the power of `exponent` stays among the doubles. -/
def scalesWithin (coefficient exponent : Nat) : Bool :=
  exponent ≤ maxExponent &&
    Binary64.round coefficient * Binary64.round (Nat.pow 10 exponent) < Binary64.overflow

/-- Whether a number fits a double, as zero and every number with a negative exponent does. -/
def fitsDouble (n : JsonNumber) : Bool :=
  n.coefficient = 0 || n.exponent < 0 || scalesWithin n.coefficient n.exponent.toNat

end JsonNumber

namespace Json

/-- Text as a value. -/
def text (s : String) : Json := string (some s)

/-- A natural number as a value. -/
def natural (n : Nat) : Json := number { coefficient := n }

/-- An object with the given members. -/
def record (members : List (String × Json)) : Json :=
  object (members.map fun m => (some m.1, m.2))

/-- The natural number that is written without sign, fraction and exponent and is at most `most`. -/
def natural? (most : Nat) : Json → Option Nat
  | number n =>
    if n.integral && !n.negative && n.coefficient ≤ most then some n.coefficient else none
  | _ => none

/-- The text of a string. -/
def text? : Json → Option String
  | string s => s
  | _ => none

mutual

/-- Whether all strings have a text, all numbers fit a double, and brackets are nested at most
`levels` deep. -/
def isPlain (levels : Nat) : Json → Bool
  | null => true
  | bool _ => true
  | number n => n.fitsDouble
  | string s => s.isSome
  | array items => 0 < levels && areItemsPlain (levels - 1) items
  | object members => 0 < levels && areMembersPlain (levels - 1) members

/-- Whether all items are plain. -/
def areItemsPlain (levels : Nat) : List Json → Bool
  | [] => true
  | item :: items => isPlain levels item && areItemsPlain levels items

/-- Whether all keys and values are plain. -/
def areMembersPlain (levels : Nat) : List (Option String × Json) → Bool
  | [] => true
  | (key, value) :: members => key.isSome && isPlain levels value && areMembersPlain levels members

end

end Json
end UsbGadget
