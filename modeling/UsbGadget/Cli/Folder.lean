/-
# Files by name

What a command sees of the file system: what a path gives when it is read, and
where a text goes that is written there.  A `Folder` is a working folder of text
files that is held in memory, in its surroundings.

A path is followed component by component, each but the last must be a folder,
and what is wrong first is reported.  A path that ends in a slash, in `.` or in
`..` asks for a folder, so that nothing is written there, whatever it leads to.

* `file?_put`: what stands at a place after a text is put at another;
* `read_eq_error`, `sink_eq_error`: a text that is no path is neither read nor written.
-/

import UsbGadget.Cli.Surroundings

namespace UsbGadget

/-- What a command sees of the file system. -/
structure Files where
  read : String → Except FileError String
  sink : String → Except FileError Sink

/-- A working folder of text files. -/
structure Folder where
  files : List (Place × String) := []

/-- What stands at a place. -/
inductive Entry where
  | file (f : File)
  | folder
  | absent (cause : FileError)

namespace Folder

/-- The file at a place. -/
def file? (f : Folder) (p : Place) : Option File :=
  match Surroundings.file? p with
  | some file => some file
  | none => (f.files.find? fun file => file.1 = p).map fun file => { text := .ok file.2 }

/-- Whether there is a folder at a place. -/
def isFolder (f : Folder) (p : Place) : Bool :=
  Surroundings.isFolder p || f.files.any fun file => file.1.isBelow p

/-- What a component leads to from a folder. -/
def entry (f : Folder) (here : Place) (component : String) : Entry :=
  if Path.maxNameLength < component.utf8ByteSize then .absent .nameTooLong
  else
    let there := Surroundings.enter here component
    match f.file? there with
    | some file => .file file
    | none => if f.isFolder there then .folder else .absent .missing

/-- The folder that a component leads to from a folder. -/
def follow (f : Folder) (here : Place) (component : String) : Except FileError Place :=
  match f.entry here component with
  | .folder => .ok (Surroundings.enter here component)
  | .file _ => .error .notADirectory
  | .absent cause => .error cause

/-- The folder that holds what a path leads to. -/
def holder (f : Folder) (path : Path) : Except FileError Place :=
  path.folders.foldlM f.follow path.start

/-- The text of the file at a path. -/
def read (f : Folder) (path : String) : Except FileError String := do
  let path ← Path.ofString path
  let here ← f.holder path
  match f.entry here path.last with
  | .file file => if path.slash then .error .notADirectory else file.text
  | .folder => .error .isADirectory
  | .absent cause => .error cause

/-- The place where a text is written, and where the text goes. -/
def target (f : Folder) (path : String) : Except FileError (Place × Sink) := do
  let path ← Path.ofString path
  let here ← f.holder path
  if path.slash || Path.isDots path.last then .error .isADirectory
  else
    let there := Surroundings.enter here path.last
    match f.entry here path.last with
    | .file file => return (there, ← file.sink)
    | .absent .missing => (Surroundings.refusal? here).elim (.ok (there, .file)) .error
    | .folder => .error .isADirectory
    | .absent cause => .error cause

/-- Where a text goes that is written at a path. -/
def sink (f : Folder) (path : String) : Except FileError Sink := (f.target path).map (·.2)

/-- The folder with a text at a place. -/
def put (f : Folder) (p : Place) (text : String) : Folder :=
  ⟨(p, text) :: f.files.filter fun file => file.1 ≠ p⟩

/-- The folder after a text is written at a path. -/
def write (f : Folder) (path text : String) : Folder :=
  match f.target path with
  | .ok (p, .file) => f.put p text
  | _ => f

/-- The folder of files with the given paths. -/
def ofList (files : List (String × String)) : Folder :=
  ⟨files.map fun file => ((Path.components file.1).foldl Surroundings.enter .working, file.2)⟩

/-- What a command sees of the folder. -/
def view (f : Folder) : Files := ⟨f.read, f.sink⟩

/-- A file that is written is found at its own place, unless the surroundings have one there. -/
theorem file?_put (f : Folder) (p q : Place) (text : String) :
    (f.put p text).file? q =
      if Surroundings.file? q = none ∧ q = p then some { text := .ok text } else f.file? q := by
  cases hs : Surroundings.file? q with
  | some file => simp [file?, hs]
  | none =>
    by_cases hp : q = p
    · subst hp
      simp [file?, put, hs]
    · have : ∀ file : Place × String, (!decide (file.1 = p) && decide (file.1 = q)) =
          decide (file.1 = q) := by
        intro file
        by_cases h : file.1 = q <;> simp [h, hp]
      simp [file?, put, hs, hp, Ne.symm hp, List.find?_filter, this]

/-- A path that cannot be read as one cannot be read from. -/
theorem read_eq_error {path : String} {cause : FileError} (h : Path.ofString path = .error cause)
    (f : Folder) : f.read path = .error cause := by
  simp [read, h, bind, Except.bind]

/-- A path that cannot be read as one cannot be written to. -/
theorem sink_eq_error {path : String} {cause : FileError} (h : Path.ofString path = .error cause)
    (f : Folder) : f.sink path = .error cause := by
  simp [sink, target, h, bind, Except.bind, Except.map]

end Folder
end UsbGadget
