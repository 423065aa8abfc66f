/-
# A request changes one entity

Every interface and every endpoint of a model keeps something for itself, and so
does every handler that they carry.  An `Entity` is the place of one of these in
the tree, and `stateOf?` is what it keeps.

| request | is served by |
| --- | --- |
| standard, to an interface | the interface at the index modulo 256 |
| standard, to an endpoint | the endpoint that the index modulo 16 is routed to |
| standard, to the other recipient | the first interface, or nobody |
| class, vendor | the first handler of that kind |

`Model.Serves` is this table, read in the active configuration.  What serves
changes its own state and nothing else: `ServedIn` says so of one level of the
tree, and `ServedIn.within` carries it to the next.  So the device is left as it
was, but for the state of one entity, or but for a stall if there is nobody
(`Device.handleRequest_isolates`).
-/

import Mathlib.Data.Nat.Bitwise
import UsbGadget.Proofs.Routing

namespace UsbGadget

/-! ### Entities and their states -/

/-- What an entity keeps for itself. -/
inductive EntityState where
  | interface (state : Interface.State)
  | endpoint (status : Endpoint.Status)
  | traffic (handler : TrafficHandler)
  | function (handler : FunctionHandler)

/-- A part of an endpoint that has a state. -/
inductive Endpoint.Part where
  | status
  | traffic
  | handler (kind : HandlerKind)
  deriving DecidableEq, Repr

/-- A part of an interface that has a state. -/
inductive Interface.Part where
  | state
  | handler (kind : HandlerKind)
  | endpoint (place : Nat) (part : Endpoint.Part)
  deriving DecidableEq, Repr

/-- The place of an entity: the positions of its configuration and of its interface, and the part
of that. -/
structure Entity where
  configuration : Nat
  interface : Nat
  part : Interface.Part
  deriving DecidableEq, Repr

/-- What the handler of a kind keeps. -/
def Functions.stateOf? (f : Functions) (kind : HandlerKind) : Option EntityState :=
  (f.get? kind).map .function

/-- What a part of an endpoint keeps. -/
def Endpoint.stateOf? (ep : Endpoint) : Endpoint.Part → Option EntityState
  | .status => some (.endpoint ep.status)
  | .traffic => ep.traffic.map .traffic
  | .handler kind => ep.functions.stateOf? kind

/-- What the elements of a list keep, by position. -/
def partOf? {α κ : Type} (stateOf? : α → κ → Option EntityState) (as : List α) (key : Nat × κ) :
    Option EntityState :=
  (as[key.1]?).bind (stateOf? · key.2)

/-- What a part of an interface keeps. -/
def Interface.stateOf? (i : Interface) : Interface.Part → Option EntityState
  | .state => some (.interface i.state)
  | .handler kind => i.functions.stateOf? kind
  | .endpoint place part => partOf? Endpoint.stateOf? i.endpoints (place, part)

/-- What a part of one of the interfaces keeps. -/
def Configuration.stateOf? (c : Configuration) (key : Nat × Interface.Part) : Option EntityState :=
  partOf? Interface.stateOf? c.interfaces key

/-- What an entity keeps. -/
def Model.stateOf? (m : Model) (e : Entity) : Option EntityState :=
  partOf? Configuration.stateOf? m.configurations (e.configuration, e.interface, e.part)

/-- All that has changed is the state of one entity.  The rest of the device is the same, the tree
has the same shape, and all other entities keep what they kept. -/
structure Model.OnlyChanges (e : Entity) (before after : Model) : Prop where
  device : after = { before with configurations := after.configurations }
  tree : after.configurations.map (·.shape) = before.configurations.map (·.shape)
  others : ∀ other, other ≠ e → after.stateOf? other = before.stateOf? other

/-! ### Who serves -/

/-- The handler of a kind in an interface: its own, or else that of the first endpoint that has
one. -/
inductive Interface.Offers (i : Interface) (kind : HandlerKind) :
    Interface.Part → FunctionHandler → Prop where
  | own {h : FunctionHandler} (hown : i.functions.get? kind = some h) :
      Offers i kind (.handler kind) h
  | endpoint {place : Nat} {ep : Endpoint} {h : FunctionHandler}
      (hnone : i.functions.get? kind = none) (hep : i.endpoints[place]? = some ep)
      (hget : ep.functions.get? kind = some h)
      (hfirst : ∀ earlier ∈ i.endpoints.take place, earlier.functions.get? kind = none) :
      Offers i kind (.endpoint place (.handler kind)) h

/-- The handler of a kind in a configuration: that of the first interface that has one. -/
structure Configuration.Offers (c : Configuration) (kind : HandlerKind) (position : Nat)
    (part : Interface.Part) (h : FunctionHandler) : Prop where
  offers : ∃ i, c.interfaces[position]? = some i ∧ i.Offers kind part h
  first : ∀ earlier ∈ c.interfaces.take position, ∀ part h, ¬ earlier.Offers kind part h

/-- The configuration at a position is the active one. -/
def Model.Active (m : Model) (position : Nat) (c : Configuration) : Prop :=
  m.active = some position ∧ m.configurations[position]? = some c

/-- What the table of a handler comes to for a request, given what the handler keeps: that of serial
lines, that of hubs, or the handler's own. -/
def FunctionHandler.dispatch (h : FunctionHandler) (speed : Speed) (r : Request) (link : Link) :
    Answer FunctionHandler :=
  match h with
  | .cdc s => (Cdc.requests.lookup r.code speed r link s).map .cdc
  | .hub s => (Hub.requests.lookup r.code speed r link s).map .hub
  | .custom own =>
    (own.requests.lookup r.code speed r link own.state).map fun s => .custom { own with state := s }

/-- A handler serves by its table. -/
theorem FunctionHandler.dispatch_eq_serve (h : FunctionHandler) : h.dispatch = fun speed r link =>
    h.serve speed r link := by
  cases h <;> rfl

/-- What a request addresses that does not go to the device itself. -/
inductive Request.Addresses (r : Request) (policy : Policy) : Target → Prop where
  | interface (hkind : r.kind = .standard) (hrecipient : r.recipient = .interface) :
      Addresses r policy (.interface (r.index.toNat % 256))
  | endpoint {number : UInt8} (hkind : r.kind = .standard) (hrecipient : r.recipient = .endpoint)
      (hnumber : number.toNat = r.index.toNat % 16) : Addresses r policy (.endpoint number)
  | other (hkind : r.kind = .standard) (hrecipient : r.recipient = .other)
      (hpolicy : policy.otherRecipient = .firstInterface) : Addresses r policy (.interface 0)
  | classSpecific (hkind : r.kind = .classSpecific) : Addresses r policy (.function .classSpecific)
  | vendorSpecific (hkind : r.kind = .vendorSpecific) :
      Addresses r policy (.function .vendorSpecific)

/-- The entity of the active configuration that a target stands for, and how it serves a request. -/
inductive Model.Hosts (m : Model) (r : Request) :
    Target → Entity → (Link → Answer EntityState) → Prop where
  | interface {position n : Nat} {c : Configuration} {i : Interface} (hactive : m.Active position c)
      (hi : c.interfaces[n]? = some i) :
      Hosts m r (.interface n) ⟨position, n, .state⟩
        fun link => (i.requests.dispatch m.speed r link i.state).map .interface
  | endpoint {position : Nat} {c : Configuration} {number : UInt8} {slot : Slot} {ep : Endpoint}
      (hactive : m.Active position c) (hroute : m.routes.find? number = some slot)
      (hep : c.endpointAt? slot = some ep) :
      Hosts m r (.endpoint number) ⟨position, slot.interface, .endpoint slot.endpoint .status⟩
        fun link => (ep.requests.dispatch m.speed r link ep.status).map .endpoint
  | function {position n : Nat} {c : Configuration} {kind : HandlerKind} {part : Interface.Part}
      {h : FunctionHandler} (hactive : m.Active position c) (hoffers : c.Offers kind n part h) :
      Hosts m r (.function kind) ⟨position, n, part⟩
        fun link => (h.dispatch m.speed r link).map .function

/-- The entity that serves a request which does not go to the device itself, and how it does. -/
def Model.Serves (m : Model) (r : Request) (e : Entity) (serve : Link → Answer EntityState) :
    Prop :=
  ∃ target, r.Addresses m.policy target ∧ m.Hosts r target e serve

/-! ### One level of the tree -/

/-- The second differs from the first in nothing but the state of one part. -/
structure Alters {α κ : Type} (shape : α → α) (stateOf? : α → κ → Option EntityState) (part : κ)
    (a b : α) : Prop where
  shape : shape b = shape a
  others : ∀ other, other ≠ part → stateOf? b other = stateOf? a other

/-- Over every link the whole serves by one part, the part keeps what that leaves, and nothing else
changes. -/
def ServedIn {α κ : Type} (shape : α → α) (stateOf? : α → κ → Option EntityState) (a : α)
    (part : κ) (serve? : Link → Option (Answer α)) (serve : Link → Answer EntityState) : Prop :=
  ∀ link, ∃ b, serve? link = some b ∧ b.outcome = (serve link).outcome ∧
    stateOf? b.state part = some (serve link).state ∧ Alters shape stateOf? part a b.state

/-- What holds of the part that serves holds of the whole that it is put back into. -/
theorem ServedIn.within {α β κ μ : Type} {shape : α → α} {stateOf? : α → κ → Option EntityState}
    {shape' : β → β} {stateOf?' : β → μ → Option EntityState} {a : α} {whole : β} {part : κ}
    {serve? : Link → Option (Answer α)} {serve?' : Link → Option (Answer β)}
    {serve : Link → Answer EntityState} (h : ServedIn shape stateOf? a part serve? serve)
    (put : α → β) (key : κ → μ) (hserve : ∀ link, serve?' link = (serve? link).map (Answer.map put))
    (hkey : ∀ b, stateOf?' (put b) (key part) = stateOf? b part)
    (hput : ∀ b, Alters shape stateOf? part a b →
      Alters shape' stateOf?' (key part) whole (put b)) :
    ServedIn shape' stateOf?' whole (key part) serve?' serve := by
  intro link
  obtain ⟨b, hb, houtcome, hstate, halters⟩ := h link
  refine ⟨b.map put, ?_, houtcome, (hkey b.state).trans hstate, hput b.state halters⟩
  rw [hserve, hb, Option.map_some]

/-- Of a list, only the element is altered whose place is taken. -/
theorem Alters.set {α κ : Type} {shape : α → α} {stateOf? : α → κ → Option EntityState} {part : κ}
    {as : List α} {n : Nat} {a b : α} (ha : as[n]? = some a) (h : Alters shape stateOf? part a b) :
    Alters (List.map shape) (partOf? stateOf?) (n, part) as (as.set n b) where
  shape := map_set_eq_map ha h.shape
  others := by
    rintro ⟨k, other⟩ hne
    unfold partOf?
    dsimp only
    by_cases hk : n = k
    · subst hk
      have hother : other ≠ part := fun hother => hne (by rw [hother])
      obtain ⟨hn, -⟩ := List.getElem?_eq_some_iff.1 ha
      rw [List.getElem?_set_self hn, ha, Option.bind_some, Option.bind_some, h.others other hother]
    · rw [List.getElem?_set_ne hk]

/-- In a list with another element at a place, the parts of that element are found there. -/
theorem partOf?_set {α κ : Type} {stateOf? : α → κ → Option EntityState} {part : κ} {as : List α}
    {n : Nat} {a : α} (ha : as[n]? = some a) (b : α) :
    partOf? stateOf? (as.set n b) (n, part) = stateOf? b part := by
  obtain ⟨hn, -⟩ := List.getElem?_eq_some_iff.1 ha
  unfold partOf?
  rw [List.getElem?_set_self hn, Option.bind_some]

/-- What serves in an element serves in the list that it is put back into. -/
theorem ServedIn.set {α κ : Type} {shape : α → α} {stateOf? : α → κ → Option EntityState} {a : α}
    {part : κ} {serve? : Link → Option (Answer α)} {serve : Link → Answer EntityState}
    (h : ServedIn shape stateOf? a part serve? serve) {as : List α} {n : Nat}
    (ha : as[n]? = some a) {serves? : Link → Option (Answer (List α))}
    (hserves : ∀ link, serves? link = (serve? link).map (Answer.map (as.set n ·))) :
    ServedIn (List.map shape) (partOf? stateOf?) as (n, part) serves? serve :=
  h.within (as.set n ·) (n, ·) hserves (partOf?_set ha) fun _ halters => halters.set ha

/-- The first element that can serve does. -/
theorem serveFirst_of_first {α : Type} {serve : α → Option (Answer α)} {as : List α} {n : Nat}
    {a : α} {b : Answer α} (ha : as[n]? = some a) (hb : serve a = some b)
    (hfirst : ∀ earlier ∈ as.take n, serve earlier = none) :
    serveFirst serve as = some (b.map (as.set n ·)) := by
  induction as generalizing n with
  | nil => cases ha
  | cons x as ih =>
    cases n with
    | zero =>
      cases ha
      rw [serveFirst, hb]
      rfl
    | succ n =>
      rw [List.take_succ_cons, List.forall_mem_cons] at hfirst
      rw [serveFirst, hfirst.1, ih ha hfirst.2]
      rfl

/-! ### The levels of the tree -/

section

variable {kind : HandlerKind} (speed : Speed) (r : Request)

/-- The handler of the kind serves in the two handlers of an entity. -/
theorem Functions.servedIn {f : Functions} {h : FunctionHandler} (hget : f.get? kind = some h) :
    ServedIn shape stateOf? f kind (fun link => f.serve? kind speed r link)
      fun link => (h.serve speed r link).map .function := by
  intro link
  have hserve : f.serve? kind speed r link =
      some ((h.serve speed r link).map fun h => f.set h kind) := by
    unfold Functions.serve?
    rw [hget, Option.map_some]
  refine ⟨_, hserve, rfl, ?_, shape_serve? hserve, ?_⟩
  · cases kind <;> rfl
  · intro other hne
    cases kind <;> cases other
    · exact absurd rfl hne
    · rfl
    · rfl
    · exact absurd rfl hne

/-- The status of an endpoint serves a standard request in the endpoint. -/
theorem Endpoint.servedIn_status (ep : Endpoint) :
    ServedIn shape stateOf? ep .status (fun link => some (ep.serve speed r link))
      fun link => (ep.requests.dispatch speed r link ep.status).map .endpoint := by
  intro link
  refine ⟨_, rfl, rfl, rfl, rfl, ?_⟩
  intro other hne
  cases other with
  | status => exact absurd rfl hne
  | traffic => rfl
  | handler kind => rfl

/-- The handler of the kind serves in the endpoint that has it. -/
theorem Endpoint.servedIn_handler {ep : Endpoint} {h : FunctionHandler}
    (hget : ep.functions.get? kind = some h) :
    ServedIn shape stateOf? ep (.handler kind) (fun link => ep.serveFunction? kind speed r link)
      fun link => (h.serve speed r link).map .function := by
  refine (Functions.servedIn speed r hget).within (fun f => { ep with functions := f })
    Endpoint.Part.handler (fun _ => rfl) (fun _ => rfl) fun f halters => ⟨?_, ?_⟩
  · have hshape := halters.shape
    simp only [shape, hshape]
  · intro other hne
    cases other with
    | status => rfl
    | traffic => rfl
    | handler other => exact halters.others other fun hother => hne (by rw [hother])

/-- The state of an interface serves a standard request in the interface. -/
theorem Interface.servedIn_state (i : Interface) :
    ServedIn shape stateOf? i .state (fun link => some (i.serve speed r link))
      fun link => (i.requests.dispatch speed r link i.state).map .interface := by
  intro link
  refine ⟨_, rfl, rfl, rfl, rfl, ?_⟩
  intro other hne
  cases other with
  | state => exact absurd rfl hne
  | handler kind => rfl
  | endpoint place part => rfl

/-- What serves in an endpoint serves in the interface that holds it. -/
theorem Interface.servedIn_endpoint {i : Interface} {place : Nat} {part : Endpoint.Part}
    {endpoints? : Link → Option (Answer (List Endpoint))} {serve : Link → Answer EntityState}
    (h : ServedIn (List.map Endpoint.shape) (partOf? Endpoint.stateOf?) i.endpoints (place, part)
      endpoints? serve) :
    ServedIn shape stateOf? i (.endpoint place part)
      (fun link => i.serveEndpoints (endpoints? link)) serve := by
  refine h.within (fun eps => { i with endpoints := eps })
    (fun key => Interface.Part.endpoint key.1 key.2) (fun _ => rfl) (fun _ => rfl)
    fun eps halters => ⟨?_, ?_⟩
  · have hshape := halters.shape
    simp only [shape, hshape]
  · intro other hne
    cases other with
    | state => rfl
    | handler kind => rfl
    | endpoint place' part' =>
      exact halters.others (place', part') fun heq => hne (by cases heq; rfl)

/-- The handler that an interface offers serves in the interface. -/
theorem Interface.servedIn_handler {i : Interface} {part : Interface.Part} {h : FunctionHandler}
    (hoffers : i.Offers kind part h) :
    ServedIn shape stateOf? i part (fun link => i.serveFunction? kind speed r link)
      fun link => (h.serve speed r link).map .function := by
  simp only [serveFunction?_eq]
  cases hoffers with
  | own hown =>
    refine (Functions.servedIn speed r hown).within (fun f => { i with functions := f })
      Interface.Part.handler (fun link => ?_) (fun _ => rfl) fun f halters => ⟨?_, ?_⟩
    · rw [Functions.serve?, hown]
      rfl
    · have hshape := halters.shape
      simp only [shape, hshape]
    · intro other hne
      cases other with
      | state => rfl
      | handler other => exact halters.others other fun hother => hne (by rw [hother])
      | endpoint place part => rfl
  | @endpoint place ep _ hnone hep hget hfirst =>
    have hserved := Endpoint.servedIn_handler speed r hget
    have hown : ∀ link, i.functions.serve? kind speed r link = none := by
      intro link
      rw [Functions.serve?, hnone, Option.map_none]
    simp only [hown, Option.map_none, Option.none_or]
    refine Interface.servedIn_endpoint (hserved.set hep fun link => ?_)
    obtain ⟨b, hb, -⟩ := hserved link
    dsimp only at hb
    rw [hb, Option.map_some]
    refine serveFirst_of_first hep hb fun earlier hearlier => ?_
    rw [Endpoint.serveFunction?, Functions.serve?, hfirst earlier hearlier]
    rfl

/-- What serves in an interface serves in the configuration that holds it. -/
theorem Configuration.servedIn_interface {c : Configuration} {key : Nat × Interface.Part}
    {interfaces? : Link → Option (Answer (List Interface))} {serve : Link → Answer EntityState}
    (h : ServedIn (List.map Interface.shape) (partOf? Interface.stateOf?) c.interfaces key
      interfaces? serve) :
    ServedIn shape stateOf? c key (fun link => c.serveInterfaces (interfaces? link)) serve := by
  refine h.within (fun is => { c with interfaces := is }) (fun key => key) (fun _ => rfl)
    (fun _ => rfl) fun is halters => ⟨?_, ?_⟩
  · have hshape := halters.shape
    simp only [shape, hshape]
  · exact halters.others

end

/-! ### The first handler of a kind -/

/-- What is found first stands at a place, and nothing before it would have been found. -/
theorem exists_first_of_findSome? {α β : Type} {f : α → Option β} {as : List α} {b : β}
    (h : as.findSome? f = some b) :
    ∃ n a, as[n]? = some a ∧ f a = some b ∧ ∀ earlier ∈ as.take n, f earlier = none := by
  obtain ⟨before, a, after, rfl, ha, hbefore⟩ := List.findSome?_eq_some_iff.1 h
  refine ⟨before.length, a, ?_, ha, ?_⟩
  · rw [List.getElem?_append_right (Nat.le_refl _), Nat.sub_self, List.getElem?_cons_zero]
  · rw [List.take_left']
    · exact hbefore
    · rfl

/-- A handler that an interface has is one that it offers. -/
theorem Interface.exists_offers {i : Interface} {kind : HandlerKind} {h : FunctionHandler}
    (hh : i.handler? kind = some h) : ∃ part, i.Offers kind part h := by
  rcases Option.or_eq_some_iff.1 hh with hown | ⟨hnone, hfirst⟩
  · exact ⟨_, .own hown⟩
  · obtain ⟨place, ep, hep, hget, hearlier⟩ := exists_first_of_findSome? hfirst
    exact ⟨_, .endpoint hnone hep hget hearlier⟩

/-- An interface has a handler of a kind just if it offers one. -/
theorem Interface.handler?_eq_none_iff {i : Interface} {kind : HandlerKind} :
    i.handler? kind = none ↔ ∀ part h, ¬ i.Offers kind part h := by
  constructor
  · intro hnone part h hoffers
    obtain ⟨hown, hendpoints⟩ := Option.or_eq_none_iff.1 hnone
    cases hoffers with
    | own hget =>
      rw [hown] at hget
      cases hget
    | endpoint _ hep hget =>
      rw [List.findSome?_eq_none_iff.1 hendpoints _ (List.mem_of_getElem? hep)] at hget
      cases hget
  · intro h
    rw [Option.eq_none_iff_forall_not_mem]
    intro handler hhandler
    obtain ⟨part, hoffers⟩ := exists_offers hhandler
    exact h part handler hoffers

/-- A handler that a configuration has is one that it offers. -/
theorem Configuration.exists_offers {c : Configuration} {kind : HandlerKind} {h : FunctionHandler}
    (hh : c.handler? kind = some h) : ∃ n part, c.Offers kind n part h := by
  obtain ⟨n, i, hi, hhandler, hfirst⟩ := exists_first_of_findSome? hh
  obtain ⟨part, hoffers⟩ := Interface.exists_offers hhandler
  exact ⟨n, part, ⟨i, hi, hoffers⟩, fun earlier hearlier =>
    Interface.handler?_eq_none_iff.1 (hfirst earlier hearlier)⟩

/-! ### The active configuration -/

section

variable {m : Model} {position : Nat} {c : Configuration}

/-- What serves in the active configuration serves in the model. -/
theorem Model.servedIn_active (hactive : m.Active position c) (key : Nat × Interface.Part)
    (configuration? : Link → Configuration → Option (Answer Configuration))
    {serve : Link → Answer EntityState}
    (h : ServedIn Configuration.shape Configuration.stateOf? c key (configuration? · c) serve) :
    ServedIn shape stateOf? m ⟨position, key.1, key.2⟩
      (fun link => m.serveActive? (configuration? link)) serve := by
  have hserve : ∀ link, m.serveActive? (configuration? link) = (configuration? link c).map
      (Answer.map fun c => { m with configurations := m.configurations.set position c }) := by
    intro link
    rw [serveActive?_eq, hactive.1, Option.bind_some, hactive.2, Option.bind_some]
  refine (h.set hactive.2 fun _ => rfl).within (fun cs => { m with configurations := cs })
    (fun key => (⟨key.1, key.2.1, key.2.2⟩ : Entity)) (fun link => ?_) (fun _ => rfl)
    fun cs halters => ⟨?_, ?_⟩
  · rw [hserve, Option.map_map]
    rfl
  · have hshape := halters.shape
    simp only [shape, hshape]
  · intro other hne
    exact halters.others (other.configuration, other.interface, other.part) fun heq =>
      hne (by cases heq; rfl)

/-- The entity that a target stands for serves what comes to the target. -/
theorem Model.Hosts.servedIn {r : Request} {target : Target} {e : Entity}
    {serve : Link → Answer EntityState} (h : m.Hosts r target e serve)
    (requests : RequestTable Model) :
    ServedIn shape stateOf? m e (fun link => Device.serve? requests target r link m) serve := by
  cases h with
  | @interface position n c i hactive hi =>
    refine servedIn_active hactive (n, .state)
      (fun link => Configuration.serveInterface? n (Interface.serve m.speed r link))
      (Configuration.servedIn_interface ((i.servedIn_state m.speed r).set hi fun link => ?_))
    rw [serveAt_eq, hi, Option.bind_some]
  | @endpoint position c number slot ep hactive hroute hep =>
    obtain ⟨i, hi, hep⟩ := Configuration.endpointAt?_eq_some_iff.1 hep
    have hendpoint := (ep.servedIn_status m.speed r).set hep fun link => (by
      rw [serveAt_eq, hep, Option.bind_some] :
      serveAt (fun ep => some (ep.serve m.speed r link)) slot.endpoint i.endpoints = _)
    simp only [Device.serve?, serveEndpoint?, hroute, Option.bind_some]
    refine servedIn_active hactive (slot.interface, .endpoint slot.endpoint .status)
      (fun link => Configuration.serveEndpoint? slot (Endpoint.serve m.speed r link))
      (Configuration.servedIn_interface ((Interface.servedIn_endpoint hendpoint).set hi
        fun link => ?_))
    rw [serveAt_eq, hi, Option.bind_some]
  | @function position n c kind part h hactive hoffers =>
    obtain ⟨i, hi, hpart⟩ := hoffers.offers
    rw [FunctionHandler.dispatch_eq_serve]
    have hserved := Interface.servedIn_handler m.speed r hpart
    refine servedIn_active hactive (n, part)
      (fun link => Configuration.serveFunction? kind m.speed r link)
      (Configuration.servedIn_interface (hserved.set hi fun link => ?_))
    obtain ⟨b, hb, -⟩ := hserved link
    dsimp only at hb
    rw [hb, Option.map_some]
    refine serveFirst_of_first hi hb fun earlier hearlier => ?_
    have hnone := Interface.handler?_eq_none_iff.2 (hoffers.first earlier hearlier)
    rw [← Option.map_eq_none_iff, Interface.outcome_serveFunction?, hnone, Option.map_none]

/-- An active configuration has a position. -/
theorem Model.exists_active (hc : m.activeConfiguration? = some c) :
    ∃ position, m.Active position c := by
  obtain ⟨position, hposition, hc⟩ := Option.bind_eq_some_iff.1 hc
  exact ⟨position, hposition, hc⟩

/-- What comes to a target is served by an entity, if by anything in the tree. -/
theorem Model.exists_hosts {requests : RequestTable Model} {target : Target} {r : Request}
    {link : Link} {answer : Answer Model} (htarget : target ≠ .device)
    (h : Device.serve? requests target r link m = some answer) :
    ∃ e serve, m.Hosts r target e serve := by
  have houtcome : (Device.serve? requests target r link m).map Answer.outcome =
      some answer.outcome := by
    rw [h, Option.map_some]
  cases target with
  | device => exact absurd rfl htarget
  | interface n =>
    rw [Device.serve?, outcome_serveInterface?] at houtcome
    obtain ⟨i, hi, -⟩ := Option.map_eq_some_iff.1 houtcome
    obtain ⟨c, hc, hi⟩ := Option.bind_eq_some_iff.1 hi
    obtain ⟨position, hactive⟩ := exists_active hc
    exact ⟨_, _, .interface hactive hi⟩
  | endpoint number =>
    rw [Device.serve?, outcome_serveEndpoint?] at houtcome
    obtain ⟨ep, hep, -⟩ := Option.map_eq_some_iff.1 houtcome
    obtain ⟨slot, hslot, hep⟩ := Option.bind_eq_some_iff.1 hep
    obtain ⟨c, hc, hep⟩ := Option.bind_eq_some_iff.1 hep
    obtain ⟨position, hactive⟩ := exists_active hc
    exact ⟨_, _, .endpoint hactive hslot hep⟩
  | function kind =>
    rw [Device.serve?, outcome_serveFunction?] at houtcome
    obtain ⟨handler, hh, -⟩ := Option.map_eq_some_iff.1 houtcome
    obtain ⟨c, hc, hh⟩ := Option.bind_eq_some_iff.1 hh
    obtain ⟨position, hactive⟩ := exists_active hc
    obtain ⟨n, part, hoffers⟩ := Configuration.exists_offers hh
    exact ⟨_, _, .function hactive hoffers⟩
  | nobody => cases h

end

/-! ### The device -/

/-- A model in which one part is altered differs in the state of that entity alone. -/
theorem Alters.onlyChanges {m m' : Model} {e : Entity}
    (h : Alters Model.shape Model.stateOf? e m m') : m.OnlyChanges e m' where
  device := by
    obtain ⟨⟩ := m
    obtain ⟨⟩ := m'
    have hshape := h.shape
    simp only [Model.shape, Model.mk.injEq] at hshape ⊢
    exact ⟨hshape.1, hshape.2.1, hshape.2.2.1, hshape.2.2.2.1, hshape.2.2.2.2.1, trivial,
      hshape.2.2.2.2.2.2⟩
  tree := congrArg (·.configurations) h.shape
  others := h.others

/-- The position of an interface is the index modulo 256. -/
theorem Request.interfacePosition_eq (r : Request) : r.interfacePosition = r.index.toNat % 256 := by
  rw [interfacePosition, UInt16.toNat_and]
  exact Nat.and_two_pow_sub_one_eq_mod r.index.toNat 8

/-- The number of an endpoint is the index modulo 16. -/
theorem Request.toNat_endpointNumber (r : Request) :
    r.endpointNumber.toNat = r.index.toNat % 16 := by
  have hand : (r.index &&& 0x0f).toNat = r.index.toNat % 16 := by
    rw [UInt16.toNat_and]
    exact Nat.and_two_pow_sub_one_eq_mod r.index.toNat 4
  rw [endpointNumber, UInt16.toNat_toUInt8, hand]
  omega

/-- A request goes to what it addresses. -/
theorem Request.Addresses.target_eq {r : Request} {policy : Policy} {target : Target}
    (h : r.Addresses policy target) : r.target policy = target := by
  unfold Request.target
  cases h with
  | interface hkind hrecipient =>
    rw [hkind, ← r.interfacePosition_eq]
    dsimp only
    rw [hrecipient]
  | endpoint hkind hrecipient hnumber =>
    rw [hkind]
    dsimp only
    rw [hrecipient]
    exact congrArg Target.endpoint (UInt8.toNat_inj.1 (r.toNat_endpointNumber.trans hnumber.symm))
  | other hkind hrecipient hpolicy =>
    rw [hkind]
    dsimp only
    rw [hrecipient]
    dsimp only
    rw [hpolicy]
    rfl
  | classSpecific hkind => rw [hkind]
  | vendorSpecific hkind => rw [hkind]

/-- A request goes to the device itself, to what it addresses, or to nobody. -/
theorem Request.addresses_target {r : Request} {policy : Policy}
    (hdevice : ¬ (r.kind = .standard ∧ r.recipient = .device))
    (hnobody : r.target policy ≠ .nobody) : r.Addresses policy (r.target policy) := by
  unfold Request.target at hnobody ⊢
  cases hkind : r.kind with
  | standard =>
    simp only [hkind] at hnobody ⊢
    cases hrecipient : r.recipient with
    | device => exact absurd ⟨hkind, hrecipient⟩ hdevice
    | interface =>
      rw [r.interfacePosition_eq]
      exact .interface hkind hrecipient
    | endpoint => exact .endpoint hkind hrecipient r.toNat_endpointNumber
    | other =>
      simp only [hrecipient] at hnobody ⊢
      cases hpolicy : policy.otherRecipient with
      | firstInterface => exact .other hkind hrecipient hpolicy
      | stall =>
        rw [hpolicy] at hnobody
        exact absurd rfl hnobody
    | reserved code =>
      rw [hrecipient] at hnobody
      exact absurd rfl hnobody
  | classSpecific => exact .classSpecific hkind
  | vendorSpecific => exact .vendorSpecific hkind
  | reserved =>
    rw [hkind] at hnobody
    exact absurd rfl hnobody

namespace Device

/-- What is left when an entity has served a request: the link and the failure are those of the
entity, which keeps its new state, and nothing else has changed. -/
structure IsServedBy (d : Device) (r : Request) (e : Entity) (serve : Link → Answer EntityState) :
    Prop where
  answer : ((d.handleRequest r).1.link, (d.handleRequest r).2) =
    (serve (d.link.note .setupReceived)).outcome
  state : (d.handleRequest r).1.model.stateOf? e =
    some (serve (d.link.note .setupReceived)).state
  model : d.model.OnlyChanges e (d.handleRequest r).1.model
  requests : (d.handleRequest r).1.requests = d.requests

/-- The device after one attempt to stall, of which the application is told no more than that a
SETUP packet came in. -/
def refused (d : Device) : Device × Option UsbError :=
  ({ d with
      link := { d.link with
        transport := d.link.transport.attempt .stall
        history := d.link.history ++ [.setupReceived] } },
    (d.link.transport.refusal? .stall).map .transport)

/-- The entity that serves a request does so, and changes nothing else. -/
theorem isServedBy {d : Device} {r : Request} {e : Entity} {serve : Link → Answer EntityState}
    (h : d.model.Serves r e serve) : d.IsServedBy r e serve := by
  obtain ⟨target, haddresses, hhosts⟩ := h
  obtain ⟨b, hb, houtcome, hstate, halters⟩ :=
    hhosts.servedIn d.requests (d.link.note .setupReceived)
  have hhandle : d.handleRequest r = d.afterAnswer b := by
    dsimp only at hb
    rw [handleRequest, haddresses.target_eq, hb]
    rfl
  constructor
  · rw [hhandle]
    exact houtcome
  · rw [hhandle]
    exact hstate
  · rw [hhandle]
    exact halters.onlyChanges
  · rw [hhandle]
    rfl

/-- A request that nobody serves is refused. -/
theorem handleRequest_eq_refused {d : Device} {r : Request}
    (h : serve? d.requests (r.target d.model.policy) r (d.link.note .setupReceived) d.model =
      none) :
    d.handleRequest r = d.refused := by
  rw [handleRequest, h, Option.getD_none, Link.stall, Link.call_eq]
  rfl

/-- **A request that does not go to the device itself changes the state of one entity.**  That
is the one which serves it, and nothing else changes: in no other entity, no other configuration and
nowhere else in the device.  If there is none, the request is refused by one attempt to stall. -/
theorem handleRequest_isolates {d : Device} {r : Request}
    (hdevice : ¬ (r.kind = .standard ∧ r.recipient = .device)) :
    (∀ e serve, d.model.Serves r e serve → d.IsServedBy r e serve) ∧
      ((¬ ∃ e serve, d.model.Serves r e serve) → d.handleRequest r = d.refused) := by
  refine ⟨fun _ _ => isServedBy, fun hnobody => handleRequest_eq_refused ?_⟩
  rw [Option.eq_none_iff_forall_not_mem]
  intro answer hanswer
  have htarget : r.target d.model.policy ≠ .nobody := by
    intro htarget
    rw [htarget] at hanswer
    cases hanswer
  have haddresses := Request.addresses_target hdevice htarget
  have hother : r.target d.model.policy ≠ .device := by
    intro hother
    rw [hother] at haddresses
    cases haddresses
  obtain ⟨e, serve, hhosts⟩ := Model.exists_hosts hother hanswer
  exact hnobody ⟨e, serve, _, haddresses, hhosts⟩

/-- The hypothesis of `Device.handleRequest_isolates` is satisfiable: of two endpoints that share a
number, the host halts the one that the number is routed to; a class request is counted by the
endpoint of the first interface, not by the second interface; and there is no third interface. -/
theorem handleRequest_isolates_shared :
    ∃ m, Model.build {} [.shared] = .ok m ∧
      let d := (ofGadget { model := m } {}).after
        [.connect, .event (.setup [0, 9, 1, 0, 0, 0, 0, 0])]
      let halt : Request := { requestType := 0x02, code := RequestCode.setFeature, index := 0x81 }
      let count : Request := { requestType := 0x21, code := 7, index := 1, length := 1 }
      let ask : Request := { requestType := 0x81, code := RequestCode.getStatus, index := 2 }
      (d.handleRequest halt).1.model.stateOf? ⟨0, 1, .endpoint 0 .status⟩ =
          some (.endpoint { halted := true }) ∧
        d.model.OnlyChanges ⟨0, 1, .endpoint 0 .status⟩ (d.handleRequest halt).1.model ∧
        (d.handleRequest count).1.model.stateOf? ⟨0, 0, .endpoint 0 (.handler .classSpecific)⟩ =
          some (.function (.counting 1)) ∧
        d.model.OnlyChanges ⟨0, 0, .endpoint 0 (.handler .classSpecific)⟩
          (d.handleRequest count).1.model ∧
        d.handleRequest ask = d.refused := by
  obtain ⟨m, hm⟩ : ∃ m, Model.build {} [.shared] = .ok m := ⟨_, rfl⟩
  refine ⟨m, hm, ?_⟩
  cases hm
  intro d halt count ask
  have haddresses : halt.Addresses d.model.policy (.endpoint 1) :=
    .endpoint (by decide) (by decide) (by decide)
  have hroute : d.model.routes.find? 1 = some ⟨1, 0⟩ := rfl
  have hhalted := (handleRequest_isolates (d := d) (r := halt) (by decide)).1 _ _
    ⟨_, haddresses, .endpoint ⟨rfl, rfl⟩ hroute rfl⟩
  have hfunction : count.Addresses d.model.policy (.function .classSpecific) :=
    .classSpecific (by decide)
  obtain ⟨c, hactive⟩ : ∃ c, d.model.Active 0 c := ⟨_, rfl, rfl⟩
  have hoffers :
      c.Offers .classSpecific 0 (.endpoint 0 (.handler .classSpecific)) (.counting 0) := by
    cases hactive.2
    refine ⟨⟨_, rfl, .endpoint rfl rfl rfl ?_⟩, ?_⟩
    · exact List.forall_mem_nil _
    · exact List.forall_mem_nil _
  have hcounted := (handleRequest_isolates (d := d) (r := count) (by decide)).1 _ _
    ⟨_, hfunction, .function hactive hoffers⟩
  refine ⟨hhalted.state, hhalted.model, hcounted.state, hcounted.model,
    (handleRequest_isolates (by decide)).2 ?_⟩
  rintro ⟨e, serve, target, haddresses, hhosts⟩
  cases haddresses with
  | interface =>
    cases hhosts with
    | interface hactive hi =>
      cases hactive.1
      cases hactive.2
      cases hi
  | endpoint _ hrecipient => exact absurd hrecipient (by decide)
  | other _ hrecipient => exact absurd hrecipient (by decide)
  | classSpecific hkind => exact absurd hkind (by decide)
  | vendorSpecific hkind => exact absurd hkind (by decide)

end Device

end UsbGadget
