/-
# The application behind a device

A device reports to an application: a SETUP packet came in, the host used the
function, a descriptor was built.  The application may replace the bytes of the
descriptor and may ask to end the session.  What it answers may depend on
everything it was told before, so it is a function of the history of callbacks
and needs no state of its own.

`Script` is the application of a fixed plan: some stages are replaced or have
bytes appended, and the session ends after a number of SETUP packets or once the
function is known to be supported.
-/

import UsbGadget.Bytes
import UsbGadget.Stage

namespace UsbGadget

/-- One thing that a device tells its application. -/
inductive Callback where
  | setupReceived
  | supported (reason : String)
  | queried (stage : Stage) (canonical : Bytes)
  | polled
  deriving DecidableEq, Repr

namespace Callback

/-- The reason of a support signal. -/
def reason? : Callback → Option String
  | supported reason => some reason
  | _ => none

/-- The stage and the canonical bytes of a query. -/
def query? : Callback → Option (Stage × Bytes)
  | queried stage canonical => some (stage, canonical)
  | _ => none

/-- The reasons of the support signals among callbacks. -/
def reasons (history : List Callback) : List String := history.filterMap reason?

/-- The queries among callbacks. -/
def queries (history : List Callback) : List (Stage × Bytes) := history.filterMap query?

/-- How many SETUP packets came in. -/
def setups (history : List Callback) : Nat := history.count .setupReceived

/-- Whether the function is known to be supported. -/
def isSupported (history : List Callback) : Bool := !(reasons history).isEmpty

end Callback

/-- What an application answers, given the callbacks before. -/
structure Application where
  mutation : List Callback → Stage → Bytes → Option Bytes := fun _ _ _ => none
  wantsStop : List Callback → Bool := fun _ => false

/-- The application that changes nothing and never asks to stop. -/
def Application.silent : Application := {}

/-- What becomes of the canonical bytes of a stage. -/
inductive Substitution where
  | replace (bytes : Bytes)
  | append (bytes : Bytes)
  deriving DecidableEq, Repr

/-- The bytes that go out in place of the canonical ones. -/
def Substitution.apply : Substitution → Bytes → Bytes
  | replace bytes, _ => bytes
  | append bytes, canonical => canonical ++ bytes

/-- A fixed plan for a session. -/
structure Script where
  substitution : Stage → Option Substitution := fun _ => none
  stopAfterSetups : Option Nat := none
  stopWhenSupported : Bool := false

namespace Script

/-- Sets or removes the substitution of a stage. -/
def setSubstitution (s : Script) (stage : Stage) (change : Option Substitution) : Script :=
  { s with substitution := fun other => if other = stage then change else s.substitution other }

/-- Whether the plan ends the session here. -/
def wantsStop (s : Script) (history : List Callback) : Bool :=
  s.stopAfterSetups.any (· ≤ Callback.setups history) ||
    (s.stopWhenSupported && Callback.isSupported history)

/-- The application that follows the plan. -/
def application (s : Script) : Application where
  mutation _ stage canonical := (s.substitution stage).map (·.apply canonical)
  wantsStop := s.wantsStop

end Script
end UsbGadget
