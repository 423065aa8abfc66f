/-
# Function handlers

The handler of class or vendor requests that an interface or an endpoint
carries: the one of a serial line, the one of a hub, or one of a device's own
making, whose state is a number.  `Functions` holds the two that an entity may
have.
-/

import UsbGadget.Cdc.Control
import UsbGadget.Hub.Control

namespace UsbGadget

/-- A handler of class or vendor requests with its state. -/
inductive FunctionHandler where
  | cdc (state : Cdc.State)
  | hub (state : Hub.State)
  | custom (handler : ClassHandler Nat)

namespace FunctionHandler

/-- The name of the handler. -/
def name : FunctionHandler → String
  | cdc s => (Cdc.handler s).name
  | hub s => (Hub.handler s).name
  | custom h => h.name

/-- Serves a request. -/
def serve (speed : Speed) (r : Request) (link : Link) : FunctionHandler → Answer FunctionHandler
  | cdc s => (Cdc.requests.dispatch speed r link s).map cdc
  | hub s => (Hub.requests.dispatch speed r link s).map hub
  | custom h => (h.serve speed r link).map custom

end FunctionHandler

/-- The class handler and the vendor handler of an interface or an endpoint. -/
structure Functions where
  classHandler : Option FunctionHandler := none
  vendorHandler : Option FunctionHandler := none

namespace Functions

/-- The handler of a kind. -/
def get? (f : Functions) : HandlerKind → Option FunctionHandler
  | .classSpecific => f.classHandler
  | .vendorSpecific => f.vendorHandler

/-- Replaces the handler of a kind. -/
def set (f : Functions) (h : FunctionHandler) : HandlerKind → Functions
  | .classSpecific => { f with classHandler := some h }
  | .vendorSpecific => { f with vendorHandler := some h }

/-- Lets the handler of a kind serve a request, if there is one. -/
def serve? (kind : HandlerKind) (speed : Speed) (r : Request) (link : Link) (f : Functions) :
    Option (Answer Functions) :=
  (f.get? kind).map fun h => (h.serve speed r link).map fun h => f.set h kind

end Functions
end UsbGadget
