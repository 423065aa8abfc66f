/-
# Descriptor layouts

A descriptor is built from the inside out: the parts that it holds come first,
then the descriptor itself is framed around their bytes, and every stage on the
way may be replaced by the application.  A `Layout` is the plan of such a build.
What it asks for depends on the plan alone, never on the answers: `stages` lists
the stages in the order in which they are asked for.

* `emit` builds the bytes and lets a mutator replace each stage;
* `canonical` builds the bytes that go out when nothing is replaced;
* `emit_disabled` says that a disabled mutator gives the canonical bytes.
-/

import UsbGadget.Application

namespace UsbGadget

/-- Who may replace what a stage has built: nobody, or an application that has been told of the
callbacks in `history`. -/
structure Mutator where
  app : Option Application := none
  history : List Callback := []

namespace Mutator

/-- The mutator that replaces nothing and tells nobody. -/
def disabled : Mutator := {}

/-- The bytes of a stage: what the application puts in place of the canonical bytes, which it is
told, or else these. -/
def settle (m : Mutator) (stage : Stage) (canonical : Bytes) : Bytes × Mutator :=
  match m.app with
  | none => (canonical, m)
  | some app =>
    ((app.mutation m.history stage canonical).getD canonical,
      { m with history := m.history ++ [.queried stage canonical] })

end Mutator

/-- The plan of a descriptor: its stage, its own bytes around those of its parts, and the parts. -/
inductive Layout where
  | node (stage : Stage) (frame : Bytes → Bytes) (parts : List Layout)

namespace Layout

/-- The plan of a descriptor without parts. -/
def leaf (stage : Stage) (bytes : Bytes) : Layout := node stage (fun _ => bytes) []

mutual

/-- Builds the bytes of a plan, asking the mutator at every stage. -/
def emit (m : Mutator) : Layout → Bytes × Mutator
  | node stage frame parts =>
    let (body, m) := emitAll m parts
    m.settle stage (frame body)

/-- Builds the bytes of plans one after the other. -/
def emitAll (m : Mutator) : List Layout → Bytes × Mutator
  | [] => ([], m)
  | part :: parts =>
    let (head, m) := emit m part
    let (tail, m) := emitAll m parts
    (head ++ tail, m)

end

mutual

/-- The bytes of a plan when nothing is replaced. -/
def canonical : Layout → Bytes
  | node _ frame parts => frame (canonicalAll parts)

/-- The bytes of plans one after the other when nothing is replaced. -/
def canonicalAll : List Layout → Bytes
  | [] => []
  | part :: parts => canonical part ++ canonicalAll parts

end

mutual

/-- The stages of a plan in the order in which they are built. -/
def stages : Layout → List Stage
  | node stage _ parts => stagesAll parts ++ [stage]

/-- The stages of plans one after the other. -/
def stagesAll : List Layout → List Stage
  | [] => []
  | part :: parts => stages part ++ stagesAll parts

end

/-- A mutator that is switched off leaves the bytes alone. -/
theorem settle_disabled (stage : Stage) (bytes : Bytes) :
    Mutator.disabled.settle stage bytes = (bytes, Mutator.disabled) := rfl

mutual

/-- A mutator that is switched off emits the canonical bytes. -/
theorem emit_disabled : ∀ l : Layout, emit Mutator.disabled l = (canonical l, Mutator.disabled)
  | node stage frame parts => by
    simp only [emit, emitAll_disabled parts, settle_disabled, canonical]

/-- A mutator that is switched off emits the canonical bytes of all layouts. -/
theorem emitAll_disabled :
    ∀ ls : List Layout, emitAll Mutator.disabled ls = (canonicalAll ls, Mutator.disabled)
  | [] => rfl
  | part :: parts => by
    simp only [emitAll, emit_disabled part, emitAll_disabled parts, canonicalAll]

end

/-- The canonical bytes of two lists of layouts are those of the one and then of the other. -/
theorem canonicalAll_append (ls ms : List Layout) :
    canonicalAll (ls ++ ms) = canonicalAll ls ++ canonicalAll ms := by
  induction ls with
  | nil => rfl
  | cons l ls ih => simp [canonicalAll, ih]

end Layout
end UsbGadget
