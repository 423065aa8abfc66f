/-
# Paths

A place is reached from the root, or from the working folder, by going down
through folders by name; the working folder itself stands in `/tmp` and has no
known name.  A path is text that leads to a place component by component: `.`
stays, `..` goes up and any other name goes down.  Empty components lead nowhere
and are left out.

| path | from | through | last | slash |
| --- | --- | --- | --- | --- |
| `a` | working folder | | `a` | no |
| `./a//b/` | working folder | `.`, `a` | `b` | yes |
| `/a/..` | root | `a` | `..` | no |
| `/` | root | | `.` | yes |

* `Place.parent_child`: going down and up again leads back;
* `Path.ofString_empty`, `Path.ofString_long`: the texts that are no paths.
-/

namespace UsbGadget

/-- Why a file cannot be used. -/
inductive FileError where
  | missing
  | noSuchDevice
  | permissionDenied
  | notADirectory
  | isADirectory
  | noSpace
  | nameTooLong
  | other (message : String)
  deriving DecidableEq, Repr

/-- The wording of the failure. -/
def FileError.message : FileError → String
  | missing => "No such file or directory (os error 2)"
  | noSuchDevice => "No such device or address (os error 6)"
  | permissionDenied => "Permission denied (os error 13)"
  | notADirectory => "Not a directory (os error 20)"
  | isADirectory => "Is a directory (os error 21)"
  | noSpace => "No space left on device (os error 28)"
  | nameTooLong => "File name too long (os error 36)"
  | other message => message

/-- Where the way to a place starts. -/
inductive Start where
  | root
  | working
  deriving DecidableEq, Repr

/-- A place in the file system. -/
structure Place where
  start : Start
  names : List String := []
  deriving DecidableEq, Repr

namespace Place

/-- The outermost folder. -/
def root : Place := { start := .root }

/-- The working folder. -/
def working : Place := { start := .working }

/-- The place with a name in a folder. -/
def child (p : Place) (name : String) : Place := { p with names := p.names ++ [name] }

/-- The folder that a place is in; the root is in itself. -/
def parent (p : Place) : Place :=
  match p.start, p.names with
  | .root, [] => p
  | .working, [] => root.child "tmp"
  | _, names => { p with names := names.dropLast }

/-- Whether a place is below another. -/
def isBelow (p q : Place) : Bool := p.start = q.start && p ≠ q && q.names.isPrefixOf p.names

/-- The parent of a child is the place itself. -/
theorem parent_child (p : Place) (name : String) : (p.child name).parent = p := by
  simp only [child, parent]
  split <;> simp_all

end Place

/-- A path: where it starts, the folders that it leads through, its last component, and whether a
slash follows. -/
structure Path where
  start : Place
  folders : List String
  last : String
  slash : Bool
  deriving DecidableEq, Repr

namespace Path

/-- The most bytes that a path may have. -/
def maxLength : Nat := 4095

/-- The most bytes that a component may have. -/
def maxNameLength : Nat := 255

/-- Whether a component leads to a folder without going down. -/
def isDots (component : String) : Bool := component = "." || component = ".."

/-- The components of a path. -/
def components (path : String) : List String := (path.splitOn "/").filter (· ≠ "")

/-- Reads a path; what is empty leads to nothing. -/
def ofString (path : String) : Except FileError Path :=
  if path = "" then .error .missing
  else if maxLength < path.utf8ByteSize then .error .nameTooLong
  else
    .ok {
      start := if path.startsWith "/" then .root else .working
      folders := (components path).dropLast
      last := (components path).getLast?.getD "."
      slash := path.endsWith "/" }

/-- The empty path is missing. -/
theorem ofString_empty : ofString "" = .error .missing := rfl

/-- A path of more bytes than the limit is refused. -/
theorem ofString_long {path : String} (h : maxLength < path.utf8ByteSize) :
    ofString path = .error .nameTooLong := by
  have : path ≠ "" := by rintro rfl; simp [maxLength] at h
  simp [ofString, this, h]

end Path
end UsbGadget
