/-
# Handlers of class and vendor requests

A named request table together with the state that it serves.  A request that
the table does not know is answered with no data, and the application learns
that the host talked to the function.
-/

import UsbGadget.RequestTable

namespace UsbGadget

/-- Whose requests a handler serves. -/
inductive HandlerKind where
  | classSpecific
  | vendorSpecific
  deriving DecidableEq, Repr

/-- The word for a kind in a description. -/
def HandlerKind.describe : HandlerKind → String
  | classSpecific => "Class"
  | vendorSpecific => "Vendor"

/-- A handler of class or vendor requests with its state. -/
structure ClassHandler (σ : Type) where
  name : String
  kind : HandlerKind := .classSpecific
  requests : RequestTable σ := { default := Handler.serviced }
  state : σ

namespace ClassHandler

variable {σ : Type}

/-- Sets the handler of a code. -/
def set (h : ClassHandler σ) (code : UInt8) (handler : Handler σ) : ClassHandler σ :=
  { h with requests := h.requests.set code handler }

/-- Whether a code has a handler of its own. -/
def handles (h : ClassHandler σ) (code : UInt8) : Bool := h.requests.contains code

/-- Serves a request. -/
def serve (speed : Speed) (r : Request) (link : Link) (h : ClassHandler σ) :
    Answer (ClassHandler σ) :=
  (h.requests.dispatch speed r link h.state).map fun s => { h with state := s }

/-- A one-line description. -/
def describe (h : ClassHandler σ) : String :=
  Describe.openRecord "ClassHandler"
    [("name", Describe.quoted h.name), ("kind", h.kind.describe),
      ("table", h.requests.describe)]

end ClassHandler
end UsbGadget
