/-
# Text without control sequences

What is left of a text where it is shown without colours and without control
characters.  Of those only tab, line feed, form feed and carriage return stay.
An escape starts a sequence, which is left out up to its end:

| after the escape | sequence | ends with |
| --- | --- | --- |
| `[` | control | `@` to `~` |
| `]` | command | bell |
| `P` | device: parameters, `@` to `~`, string | byte `9c` |
| `X` `^` `_` | string | byte `9c` |
| space to `/` | designation | `0` to `~` |
| any other of `0` to `~` | none | itself |

Cancel and substitute end every sequence, and an escape starts anew.  A control
character that stays interrupts an escape, a designation or a control sequence:
what follows is shown up to the next control character that does not stay, and
then the sequence goes on, unless a character outside of ASCII was shown.

* `isVisible_of_mem_strip`: nothing but visible characters is left;
* `strip_eq_self`: a text of visible characters is left as it is.
-/

namespace UsbGadget
namespace ControlSequence

/-- The sequence that is being read. -/
inductive Sequence where
  | none
  | escape
  | designation
  | control
  | command
  | device
  | deviceParameters
  | deviceIntermediates
  | string
  deriving DecidableEq, Repr

/-- Whether a control character stays: tab, line feed, form feed or carriage return. -/
def isLayout (c : Char) : Bool := c = '\t' || c = '\n' || c = '\x0c' || c = '\r'

/-- Whether a character stays outside of sequences. -/
def isVisible (c : Char) : Bool := isLayout c || (' ' ≤ c && c ≠ '\x7f')

/-- Whether a character lies between two others, ends included. -/
def isWithin (first last c : Char) : Bool := first ≤ c && c ≤ last

/-- Whether a character ends a string: one of its bytes in UTF-8 is `9c`. -/
def endsString (c : Char) : Bool := (String.utf8EncodeChar c).contains 0x9c

namespace Sequence

/-- Whether a character that is read in a sequence stays. -/
def shows : Sequence → Char → Bool
  | none, c => isVisible c
  | escape, c | designation, c | control, c => isLayout c
  | _, _ => false

/-- The sequence that a character after an escape starts. -/
def ofIntroducer (c : Char) : Sequence :=
  if c = '[' then control
  else if c = ']' then command
  else if c = 'P' then device
  else if c = 'X' || c = '^' || c = '_' then string
  else if isWithin ' ' '/' c then designation
  else if isWithin '0' '~' c then none
  else escape

/-- The sequence after a character that does not stay. -/
def next (s : Sequence) (c : Char) : Sequence :=
  if c = '\x18' || c = '\x1a' then none
  else if c = '\x1b' then escape
  else
    match s with
    | none => none
    | escape => ofIntroducer c
    | designation => if isWithin '0' '~' c then none else designation
    | control => if isWithin '@' '~' c then none else control
    | command => if c = '\x07' then none else command
    | device =>
      if isWithin ' ' '/' c then deviceIntermediates
      else if isWithin '0' '?' c then deviceParameters
      else if isWithin '@' '~' c then string
      else device
    | deviceParameters =>
      if isWithin ' ' '/' c then deviceIntermediates
      else if isWithin '<' '~' c then string
      else deviceParameters
    | deviceIntermediates => if isWithin '0' '~' c then string else deviceIntermediates
    | string => if endsString c then none else string

end Sequence

/-- What is known of the text so far: the sequence that is being read, and whether the last
character stayed. -/
structure Reader where
  sequence : Sequence := .none
  showing : Bool := false
  deriving DecidableEq, Repr

namespace Reader

/-- Whether a character stays. -/
def shows (r : Reader) (c : Char) : Bool := if r.showing then isVisible c else r.sequence.shows c

/-- What is known after a character. -/
def next (r : Reader) (c : Char) : Reader :=
  if r.shows c then { sequence := if c ≤ '\x7f' then r.sequence else .none, showing := true }
  else { sequence := r.sequence.next c }

end Reader

/-- The characters that stay. -/
def strip : Reader → List Char → List Char
  | _, [] => []
  | r, c :: cs => if r.shows c then c :: strip (r.next c) cs else strip (r.next c) cs

/-- The text without control sequences and control characters. -/
def stripText (s : String) : String := String.ofList (strip {} s.toList)

/-- A character that the reader shows is a visible one. -/
theorem isVisible_of_shows {r : Reader} {c : Char} (h : r.shows c) : isVisible c := by
  rcases r with ⟨s, b⟩
  cases b
  · cases s <;> simp_all [Reader.shows, Sequence.shows, isVisible]
  · exact h

/-- Stripping leaves visible characters only. -/
theorem isVisible_of_mem_strip {r : Reader} {cs : List Char} {c : Char} (h : c ∈ strip r cs) :
    isVisible c := by
  induction cs generalizing r with
  | nil => simp [strip] at h
  | cons d ds ih =>
    rw [strip] at h
    split at h
    · next hd =>
      obtain rfl | h := List.mem_cons.1 h
      · exact isVisible_of_shows hd
      · exact ih h
    · exact ih h

/-- A text of visible characters is left as it is. -/
theorem strip_eq_self {r : Reader} {cs : List Char} (hr : r.sequence = .none)
    (h : ∀ c ∈ cs, isVisible c) : strip r cs = cs := by
  induction cs generalizing r with
  | nil => rfl
  | cons c cs ih =>
    have hc : r.shows c := by
      have := h c List.mem_cons_self
      simpa [Reader.shows, hr, Sequence.shows] using this
    have hn : (r.next c).sequence = .none := by simp [Reader.next, hc, hr]
    rw [strip, if_pos hc, ih hn fun d hd => h d (List.mem_cons_of_mem c hd)]

end ControlSequence
end UsbGadget
