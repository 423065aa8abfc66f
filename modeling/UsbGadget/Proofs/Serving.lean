/-
# Who serves, and what serving changes

A request that reaches a model is served by one part of its active
configuration.  The first half says by which part, through what is left behind
outside of the model, the `outcome`:

| request to | is served by |
| --- | --- |
| an interface position | `Model.interface?` |
| an endpoint number | `Model.endpoint?` |
| a function, by kind | `Model.handler?` |

`Device.outcome_serve?` puts these together for all targets of a request.

The second half says what cannot change by it.  The `shape` of a tree is the
tree with all that its entities keep for themselves put back: the state of an
interface, the status of an endpoint, and the states of all handlers.  Whatever
serves, and however, the shape of the model stays (`Model.shape_serveInterface?`,
`shape_serveEndpoint?`, `shape_serveFunction?`).
-/

import UsbGadget.Device

namespace UsbGadget

/-! ### By whom -/

/-- The handler of a kind decides what the two handlers together come to. -/
theorem Functions.outcome_serve? (kind : HandlerKind) (speed : Speed) (r : Request) (link : Link)
    (f : Functions) : (f.serve? kind speed r link).map Answer.outcome =
      (f.get? kind).map fun h => (h.serve speed r link).outcome := by
  rw [serve?, Option.map_map]
  rfl

/-- The handler of a kind decides what the endpoint comes to. -/
theorem Endpoint.outcome_serveFunction? (kind : HandlerKind) (speed : Speed) (r : Request)
    (link : Link) (ep : Endpoint) :
    (ep.serveFunction? kind speed r link).map Answer.outcome =
      (ep.functions.get? kind).map fun h => (h.serve speed r link).outcome := by
  rw [serveFunction?, ← Functions.outcome_serve?, Option.map_map]
  rfl

/-- Putting the endpoints back into the interface changes nothing outside of it. -/
theorem Interface.outcome_serveEndpoints (i : Interface)
    (answer : Option (Answer (List Endpoint))) :
    (i.serveEndpoints answer).map Answer.outcome = answer.map Answer.outcome := by
  rw [serveEndpoints, Option.map_map]
  rfl

/-- An interface lets its own handler serve, or else the first of its endpoints that has one. -/
theorem Interface.serveFunction?_eq (kind : HandlerKind) (speed : Speed) (r : Request)
    (link : Link) (i : Interface) :
    i.serveFunction? kind speed r link =
      ((i.functions.serve? kind speed r link).map
        (Answer.map fun f => { i with functions := f })).or
      (i.serveEndpoints (serveFirst (Endpoint.serveFunction? kind speed r link) i.endpoints)) := by
  unfold serveFunction?
  cases i.functions.serve? kind speed r link <;> rfl

/-- The handler that an interface offers decides what the interface comes to. -/
theorem Interface.outcome_serveFunction? (kind : HandlerKind) (speed : Speed) (r : Request)
    (link : Link) (i : Interface) :
    (i.serveFunction? kind speed r link).map Answer.outcome =
      (i.handler? kind).map fun h => (h.serve speed r link).outcome := by
  have hown : ((i.functions.serve? kind speed r link).map
      (Answer.map fun f => { i with functions := f })).map Answer.outcome =
        (i.functions.get? kind).map fun h => (h.serve speed r link).outcome := by
    rw [← Functions.outcome_serve?, Option.map_map]
    rfl
  have hendpoints : (i.serveEndpoints
      (serveFirst (Endpoint.serveFunction? kind speed r link) i.endpoints)).map Answer.outcome =
        (i.endpoints.findSome? (·.functions.get? kind)).map
          fun h => (h.serve speed r link).outcome := by
    rw [outcome_serveEndpoints, outcome_serveFirst, List.map_findSome?]
    exact congrArg (List.findSome? · i.endpoints)
      (funext fun ep => ep.outcome_serveFunction? kind speed r link)
  rw [serveFunction?_eq, Option.map_or, hown, hendpoints, ← Option.map_or, handler?]

namespace Configuration

/-- Putting the interfaces back into the configuration changes nothing outside of it. -/
theorem outcome_serveInterfaces (c : Configuration) (answer : Option (Answer (List Interface))) :
    (c.serveInterfaces answer).map Answer.outcome = answer.map Answer.outcome := by
  rw [serveInterfaces, Option.map_map]
  rfl

/-- The interface at a position decides what the configuration comes to. -/
theorem outcome_serveInterface? (c : Configuration) (position : Nat)
    (serve : Interface → Answer Interface) :
    (c.serveInterface? position serve).map Answer.outcome =
      (c.interfaces[position]?).map fun i => (serve i).outcome := by
  rw [serveInterface?, outcome_serveInterfaces, outcome_serveAt]
  cases c.interfaces[position]? <;> rfl

/-- The endpoint at a slot decides what the configuration comes to. -/
theorem outcome_serveEndpoint? (c : Configuration) (slot : Slot)
    (serve : Endpoint → Answer Endpoint) :
    (c.serveEndpoint? slot serve).map Answer.outcome =
      (c.endpointAt? slot).map fun ep => (serve ep).outcome := by
  rw [serveEndpoint?, outcome_serveInterfaces, outcome_serveAt, endpointAt?]
  cases c.interfaces[slot.interface]? with
  | none => rfl
  | some i =>
    rw [Option.bind_some, Option.bind_some, Interface.outcome_serveEndpoints, outcome_serveAt]
    cases i.endpoints[slot.endpoint]? <;> rfl

/-- The handler that a configuration offers decides what the configuration comes to. -/
theorem outcome_serveFunction? (c : Configuration) (kind : HandlerKind) (speed : Speed)
    (r : Request) (link : Link) :
    (c.serveFunction? kind speed r link).map Answer.outcome =
      (c.handler? kind).map fun h => (h.serve speed r link).outcome := by
  rw [serveFunction?, outcome_serveInterfaces, outcome_serveFirst, handler?, List.map_findSome?]
  exact congrArg (List.findSome? · c.interfaces)
    (funext fun i => i.outcome_serveFunction? kind speed r link)

end Configuration

namespace Model

/-- What serving in the active configuration comes down to. -/
theorem serveActive?_eq (serve : Configuration → Option (Answer Configuration)) (m : Model) :
    m.serveActive? serve = m.active.bind fun position => (m.configurations[position]?).bind fun c =>
      (serve c).map (Answer.map fun c =>
        { m with configurations := m.configurations.set position c }) := by
  rw [serveActive?]
  cases m.active with
  | none => rfl
  | some position =>
    rw [Option.bind_some, Option.bind_some, serveAt_eq]
    cases m.configurations[position]? with
    | none => rfl
    | some c =>
      rw [Option.bind_some, Option.bind_some, Option.map_map]
      rfl

/-- The active configuration decides what the model comes to. -/
theorem outcome_serveActive? (serve : Configuration → Option (Answer Configuration)) (m : Model) :
    (m.serveActive? serve).map Answer.outcome =
      m.activeConfiguration?.bind fun c => (serve c).map Answer.outcome := by
  rw [serveActive?_eq, activeConfiguration?]
  cases m.active with
  | none => rfl
  | some position =>
    rw [Option.bind_some, Option.bind_some]
    cases m.configurations[position]? with
    | none => rfl
    | some c =>
      rw [Option.bind_some, Option.bind_some, Option.map_map]
      rfl

/-- A request to an interface position is served by the interface there. -/
theorem outcome_serveInterface? (m : Model) (position : Nat)
    (serve : Interface → Answer Interface) :
    (m.serveInterface? position serve).map Answer.outcome =
      (m.interface? position).map fun i => (serve i).outcome := by
  rw [serveInterface?, outcome_serveActive?, interface?, Option.map_bind]
  exact congrArg _ (funext fun c => c.outcome_serveInterface? position serve)

/-- A request to an endpoint number is served by the endpoint that the number's traffic goes to. -/
theorem outcome_serveEndpoint? (m : Model) (number : UInt8) (serve : Endpoint → Answer Endpoint) :
    (m.serveEndpoint? number serve).map Answer.outcome =
      (m.endpoint? number).map fun ep => (serve ep).outcome := by
  rw [serveEndpoint?, endpoint?]
  cases m.routes.find? number with
  | none => rfl
  | some slot =>
    rw [Option.bind_some, Option.bind_some, outcome_serveActive?, Option.map_bind]
    exact congrArg _ (funext fun c => c.outcome_serveEndpoint? slot serve)

/-- A request to a function is served by the handler of its kind. -/
theorem outcome_serveFunction? (m : Model) (kind : HandlerKind) (r : Request) (link : Link) :
    (m.serveFunction? kind r link).map Answer.outcome =
      (m.handler? kind).map fun h => (h.serve m.speed r link).outcome := by
  rw [serveFunction?, outcome_serveActive?, handler?, Option.map_bind]
  exact congrArg _ (funext fun c => c.outcome_serveFunction? kind m.speed r link)

variable {m : Model}

/-- An interface that is not there serves nothing. -/
theorem serveInterface?_eq_none {position : Nat} (h : m.interface? position = none)
    (serve : Interface → Answer Interface) : m.serveInterface? position serve = none := by
  rw [← Option.map_eq_none_iff, outcome_serveInterface?, h, Option.map_none]

/-- An endpoint that is not there serves nothing. -/
theorem serveEndpoint?_eq_none {number : UInt8} (h : m.endpoint? number = none)
    (serve : Endpoint → Answer Endpoint) : m.serveEndpoint? number serve = none := by
  rw [← Option.map_eq_none_iff, outcome_serveEndpoint?, h, Option.map_none]

/-- A handler that is not there serves nothing. -/
theorem serveFunction?_eq_none {kind : HandlerKind} (h : m.handler? kind = none) (r : Request)
    (link : Link) : m.serveFunction? kind r link = none := by
  rw [← Option.map_eq_none_iff, outcome_serveFunction?, h, Option.map_none]

end Model

/-- What serving a request leaves behind outside of the model is what the part that it goes to
leaves behind; a request to a part that is not there is answered with a stall. -/
theorem Device.outcome_serve? (requests : RequestTable Model) (target : Target) (r : Request)
    (link : Link) (m : Model) :
    ((serve? requests target r link m).getD (link.stall m)).outcome =
      match target with
      | .device => (requests.dispatch m.speed r link m).outcome
      | .interface position =>
        ((m.interface? position).map fun i => (i.serve m.speed r link).outcome).getD
          (link.stall m).outcome
      | .endpoint number =>
        ((m.endpoint? number).map fun ep => (ep.serve m.speed r link).outcome).getD
          (link.stall m).outcome
      | .function kind =>
        ((m.handler? kind).map fun h => (h.serve m.speed r link).outcome).getD
          (link.stall m).outcome
      | .nobody => (link.stall m).outcome := by
  rw [← Option.getD_map Answer.outcome]
  cases target with
  | device => rfl
  | interface position => rw [serve?, Model.outcome_serveInterface?]
  | endpoint number => rw [serve?, Model.outcome_serveEndpoint?]
  | function kind => rw [serve?, Model.outcome_serveFunction?]
  | nobody => rfl

/-! ### What stays -/

/-- A function handler with its state put back. -/
def FunctionHandler.shape : FunctionHandler → FunctionHandler
  | cdc _ => cdc {}
  | hub _ => hub {}
  | custom h => custom { h with state := 0 }

/-- A handler of requests keeps its shape, whatever it serves. -/
theorem FunctionHandler.shape_serve (speed : Speed) (r : Request) (link : Link)
    (h : FunctionHandler) : (h.serve speed r link).state.shape = h.shape := by
  cases h <;> rfl

/-- A traffic handler with its state put back. -/
def TrafficHandler.shape : TrafficHandler → TrafficHandler
  | silent => silent
  | receiver _ => receiver {}
  | responder ep frame => responder ep frame
  | custom t => custom { t with state := 0 }

/-- A handler of traffic keeps its shape when data comes in. -/
theorem TrafficHandler.shape_receive (speed : Speed) (data : Bytes) (link : Link)
    (t : TrafficHandler) : (t.receive speed data link).state.shape = t.shape := by
  cases t <;> rfl

/-- A handler of traffic keeps its shape when there is room for data. -/
theorem TrafficHandler.shape_offer (speed : Speed) (link : Link) (t : TrafficHandler) :
    (t.offer speed link).state.shape = t.shape := by
  cases t with
  | responder ep frame => rw [offer, Link.state_send]
  | _ => rfl

/-- Both handlers with their states put back. -/
def Functions.shape (f : Functions) : Functions :=
  ⟨f.classHandler.map (·.shape), f.vendorHandler.map (·.shape)⟩

/-- The handlers that an entity has by its shape are the shapes of those that it has. -/
theorem Functions.get?_shape (f : Functions) (kind : HandlerKind) :
    f.shape.get? kind = (f.get? kind).map (·.shape) := by
  cases kind <;> rfl

/-- The two handlers of an entity keep their shape when one of them serves. -/
theorem Functions.shape_serve? {kind : HandlerKind} {speed : Speed} {r : Request} {link : Link}
    {f : Functions} {answer : Answer Functions} (h : f.serve? kind speed r link = some answer) :
    answer.state.shape = f.shape := by
  obtain ⟨handler, hget, rfl⟩ := Option.map_eq_some_iff.1 h
  cases kind
  all_goals
    simp only [get?] at hget
    simp only [Answer.state_map, set, shape, hget, Option.map_some, FunctionHandler.shape_serve]

namespace Endpoint

/-- An endpoint with its states put back. -/
def shape (ep : Endpoint) : Endpoint :=
  { ep with
    traffic := ep.traffic.map (·.shape)
    functions := ep.functions.shape
    status := {} }

/-- An endpoint keeps its shape when it serves a standard request. -/
theorem shape_serve (speed : Speed) (r : Request) (link : Link) (ep : Endpoint) :
    (ep.serve speed r link).state.shape = ep.shape := rfl

/-- An endpoint keeps its shape when one of its handlers serves. -/
theorem shape_serveFunction? {kind : HandlerKind} {speed : Speed} {r : Request} {link : Link}
    {ep : Endpoint} {answer : Answer Endpoint}
    (h : ep.serveFunction? kind speed r link = some answer) :
    answer.state.shape = ep.shape := by
  obtain ⟨f, hf, rfl⟩ := Option.map_eq_some_iff.1 h
  rw [Answer.state_map, shape, Functions.shape_serve? hf]
  rfl

/-- An endpoint keeps its shape if its handler of traffic does. -/
theorem shape_withTraffic {act : TrafficHandler → Answer TrafficHandler}
    (hact : ∀ t, (act t).state.shape = t.shape) (link : Link) (ep : Endpoint) :
    (ep.withTraffic link act).state.shape = ep.shape := by
  rw [withTraffic]
  split
  · rfl
  · next t ht => rw [Answer.state_map, shape, shape, ht, Option.map_some, hact, Option.map_some]

/-- An endpoint keeps its shape when data comes in. -/
theorem shape_receive (speed : Speed) (data : Bytes) (link : Link) (ep : Endpoint) :
    (ep.receive speed data link).state.shape = ep.shape :=
  shape_withTraffic (TrafficHandler.shape_receive speed data link) link ep

/-- An endpoint keeps its shape when there is room for data. -/
theorem shape_offer (speed : Speed) (link : Link) (ep : Endpoint) :
    (ep.offer speed link).state.shape = ep.shape :=
  shape_withTraffic (TrafficHandler.shape_offer speed link) link ep

end Endpoint

namespace Interface

/-- An interface with its states put back. -/
def shape (i : Interface) : Interface :=
  { i with
    endpoints := i.endpoints.map (·.shape)
    functions := i.functions.shape
    state := {} }

/-- An interface keeps its shape when it serves a standard request. -/
theorem shape_serve (speed : Speed) (r : Request) (link : Link) (i : Interface) :
    (i.serve speed r link).state.shape = i.shape := rfl

/-- An interface keeps its shape if the endpoint that serves does. -/
theorem shape_serveEndpoints {serve : Endpoint → Option (Answer Endpoint)} {i : Interface}
    {endpoints : Option (Answer (List Endpoint))} {answer : Answer Interface}
    (hserved : ∀ a, endpoints = some a → Served serve i.endpoints a)
    (hserve : ∀ ep b, serve ep = some b → b.state.shape = ep.shape)
    (h : i.serveEndpoints endpoints = some answer) : answer.state.shape = i.shape := by
  obtain ⟨a, ha, rfl⟩ := Option.map_eq_some_iff.1 h
  rw [Answer.state_map, shape, (hserved a ha).map_eq hserve]
  rfl

/-- An interface keeps its shape when one of its handlers serves. -/
theorem shape_serveFunction? {kind : HandlerKind} {speed : Speed} {r : Request} {link : Link}
    {i : Interface} {answer : Answer Interface}
    (h : i.serveFunction? kind speed r link = some answer) : answer.state.shape = i.shape := by
  rw [serveFunction?_eq] at h
  rcases Option.or_eq_some_iff.1 h with h | ⟨-, h⟩
  · obtain ⟨own, hown, rfl⟩ := Option.map_eq_some_iff.1 h
    rw [Answer.state_map, shape, Functions.shape_serve? hown]
    rfl
  · exact shape_serveEndpoints (fun _ => served_of_serveFirst)
      (fun _ _ => Endpoint.shape_serveFunction?) h

end Interface

namespace Configuration

/-- A configuration with its states put back. -/
def shape (c : Configuration) : Configuration :=
  { c with interfaces := c.interfaces.map (·.shape) }

/-- A configuration keeps its shape if the interface that serves does. -/
theorem shape_serveInterfaces {serve : Interface → Option (Answer Interface)} {c : Configuration}
    {interfaces : Option (Answer (List Interface))} {answer : Answer Configuration}
    (hserved : ∀ a, interfaces = some a → Served serve c.interfaces a)
    (hserve : ∀ i b, serve i = some b → b.state.shape = i.shape)
    (h : c.serveInterfaces interfaces = some answer) : answer.state.shape = c.shape := by
  obtain ⟨a, ha, rfl⟩ := Option.map_eq_some_iff.1 h
  rw [Answer.state_map, shape, (hserved a ha).map_eq hserve]
  rfl

/-- A configuration keeps its shape if the interface at a position does. -/
theorem shape_serveInterface? {position : Nat} {serve : Interface → Answer Interface}
    {c : Configuration} {answer : Answer Configuration}
    (hserve : ∀ i, (serve i).state.shape = i.shape)
    (h : c.serveInterface? position serve = some answer) : answer.state.shape = c.shape :=
  shape_serveInterfaces (fun _ => served_of_serveAt)
    (fun i _ hb => Option.some.inj hb ▸ hserve i) h

/-- A configuration keeps its shape if the endpoint at a slot does. -/
theorem shape_serveEndpoint? {slot : Slot} {serve : Endpoint → Answer Endpoint}
    {c : Configuration} {answer : Answer Configuration}
    (hserve : ∀ ep, (serve ep).state.shape = ep.shape)
    (h : c.serveEndpoint? slot serve = some answer) : answer.state.shape = c.shape :=
  shape_serveInterfaces (fun _ => served_of_serveAt)
    (fun _ _ hb => Interface.shape_serveEndpoints (fun _ => served_of_serveAt)
      (fun ep _ hb => Option.some.inj hb ▸ hserve ep) hb) h

/-- A configuration keeps its shape when one of its handlers serves. -/
theorem shape_serveFunction? {kind : HandlerKind} {speed : Speed} {r : Request} {link : Link}
    {c : Configuration} {answer : Answer Configuration}
    (h : c.serveFunction? kind speed r link = some answer) : answer.state.shape = c.shape :=
  shape_serveInterfaces (fun _ => served_of_serveFirst)
    (fun _ _ => Interface.shape_serveFunction?) h

end Configuration

namespace Model

/-- A model with the states of its tree put back. -/
def shape (m : Model) : Model := { m with configurations := m.configurations.map (·.shape) }

/-- A model keeps its shape if its active configuration does. -/
theorem shape_serveActive? {serve : Configuration → Option (Answer Configuration)} {m : Model}
    {answer : Answer Model} (hserve : ∀ c b, serve c = some b → b.state.shape = c.shape)
    (h : m.serveActive? serve = some answer) : answer.state.shape = m.shape := by
  obtain ⟨position, -, h⟩ := Option.bind_eq_some_iff.1 h
  obtain ⟨a, ha, rfl⟩ := Option.map_eq_some_iff.1 h
  rw [Answer.state_map, shape, (served_of_serveAt ha).map_eq hserve]
  rfl

/-- A model keeps its shape if the interface that serves does. -/
theorem shape_serveInterface? {position : Nat} {serve : Interface → Answer Interface} {m : Model}
    {answer : Answer Model} (hserve : ∀ i, (serve i).state.shape = i.shape)
    (h : m.serveInterface? position serve = some answer) : answer.state.shape = m.shape :=
  shape_serveActive? (fun _ _ => Configuration.shape_serveInterface? hserve) h

/-- A model keeps its shape if the endpoint that serves does. -/
theorem shape_serveEndpoint? {number : UInt8} {serve : Endpoint → Answer Endpoint} {m : Model}
    {answer : Answer Model} (hserve : ∀ ep, (serve ep).state.shape = ep.shape)
    (h : m.serveEndpoint? number serve = some answer) : answer.state.shape = m.shape := by
  obtain ⟨slot, -, h⟩ := Option.bind_eq_some_iff.1 h
  exact shape_serveActive? (fun _ _ => Configuration.shape_serveEndpoint? hserve) h

/-- A model keeps its shape when one of its handlers serves. -/
theorem shape_serveFunction? {kind : HandlerKind} {r : Request} {link : Link} {m : Model}
    {answer : Answer Model} (h : m.serveFunction? kind r link = some answer) :
    answer.state.shape = m.shape :=
  shape_serveActive? (fun _ _ => Configuration.shape_serveFunction?) h

end Model
end UsbGadget
