/-
# What a failed request leaves behind

A handler works on its state and then answers, and nothing takes the work back
if the answer does not go out.  So there are two ways for a request to fail.
Either the handler rejects it, and then the state stays as it was; or the
transport is not connected, and then the state is the one that the same request
makes over a transport that is.  Which of the two it is does not depend on the
link: that is its `Fate`.

Every handler that is known has a fate (`FunctionHandler.hasFate_of_isStock` and
the `hasFate_lookup` of each table), and the fate of a part is that of the whole
model (`Device.fate_serve?`), because what the part becomes is put in its place
and nothing else is touched (`Model.mounts`).  Of handlers of one's own making no
more is known than that: a request that goes to one changes nothing but states of
such handlers (`Device.bare_handleRequest`).
-/

import UsbGadget.Proofs.Stock

namespace UsbGadget

/-- What an answer fails with over a link: nothing, if the transport is connected. -/
def Link.answerFailure? (link : Link) : Option UsbError :=
  if link.transport.connected then none else some (.transport .notConnected)

/-- A call that answers a request fails just if the transport refuses answers. -/
theorem Link.failure_call_of_answers {r : Request} {c : Call} (hc : c.Answers r) {σ : Type}
    (link : Link) (s : σ) : (link.call c s).failure = link.answerFailure? := by
  have hrefusal := hc.refusal?_eq link.transport
  unfold answerFailure?
  split
  · next hconnected =>
    rw [if_pos hconnected] at hrefusal
    rw [call_of_refusal?_eq_none hrefusal]
  · next hconnected =>
    rw [if_neg hconnected] at hrefusal
    rw [call_of_refusal?_eq_some hrefusal]

/-- What becomes of a state that serves, whichever link it serves over: it commits to a state, and
then only the answer can fail; or it rejects what it should serve, and stays. -/
inductive Fate {σ : Type} (s : σ) (serve : Link → Answer σ) : Prop where
  | commits (s' : σ)
      (h : ∀ link, (serve link).state = s' ∧ (serve link).failure = link.answerFailure?)
  | rejects (e : UsbError) (h : ∀ link, (serve link).state = s ∧ (serve link).failure = some e)

namespace Fate

variable {σ τ : Type} {s : σ} {serve : Link → Answer σ}

/-- The fate of an answer that is one call, made after the application was told something. -/
theorem of_call {r : Request} {c : Link → Call} (prepare : Link → Link) (s s' : σ)
    (hc : ∀ link, (c link).Answers r)
    (hprepare : ∀ link, (prepare link).transport = link.transport) :
    Fate s fun link => (prepare link).call (c link) s' := by
  refine .commits s' fun link => ⟨Link.state_call .., ?_⟩
  rw [Link.failure_call_of_answers (hc link), Link.answerFailure?, hprepare, Link.answerFailure?]

/-- Whoever replies has committed to its state, and only the answer can fail. -/
theorem reply (r : Request) (data : Bytes) (s : σ) : Fate s fun link => link.reply r data s :=
  of_call (r := r) id s s (fun _ => ⟨rfl, List.length_take_le _ _⟩) fun _ => rfl

/-- Whoever replies with no data has committed to its state. -/
theorem replyEmpty (r : Request) (s s' : σ) : Fate s fun link => link.replyEmpty s' :=
  of_call (r := r) id s s' (fun _ => ⟨rfl, Nat.zero_le _⟩) fun _ => rfl

/-- Whoever stalls has committed to its state. -/
theorem stall (r : Request) (s : σ) : Fate s fun link => link.stall s :=
  of_call (r := r) id s s (fun _ => trivial) fun _ => rfl

/-- Whoever acknowledges has committed to its state. -/
theorem acknowledge (r : Request) (s s' : σ) : Fate s fun link => link.acknowledge s' :=
  of_call (r := r) id s s' (fun _ => trivial) fun _ => rfl

/-- What the application is told before has no part in the fate. -/
theorem prepared (h : Fate s serve) (prepare : Link → Link)
    (hprepare : ∀ link, (prepare link).transport = link.transport) :
    Fate s fun link => serve (prepare link) := by
  cases h with
  | commits s' h =>
    refine .commits s' fun link => ⟨(h (prepare link)).1, ?_⟩
    rw [(h (prepare link)).2, Link.answerFailure?, hprepare, Link.answerFailure?]
  | rejects e h => exact .rejects e fun link => h (prepare link)

/-- The whole that a part is put back into has the fate of the part. -/
theorem map (h : Fate s serve) {t : τ} (f : σ → τ) (ht : f s = t) :
    Fate t fun link => (serve link).map f := by
  cases h with
  | commits s' h => exact .commits (f s') fun link => ⟨congrArg f (h link).1, (h link).2⟩
  | rejects e h =>
    exact .rejects e fun link => ⟨(congrArg f (h link).1).trans ht, (h link).2⟩

/-- A request that fails keeps the state; or the transport is not connected, and over any that is
the same request succeeds and makes the state that it has made now. -/
theorem of_failure (h : Fate s serve) (link : Link) {e : UsbError}
    (he : (serve link).failure = some e) :
    (serve link).state = s ∨
      e = .transport .notConnected ∧ link.transport.connected = false ∧
        ∀ link', link'.transport.connected = true →
          (serve link').state = (serve link).state ∧ (serve link').failure = none := by
  cases h with
  | commits s' h =>
    right
    rw [(h link).2, Link.answerFailure?] at he
    split at he
    · cases he
    · next hconnected =>
      cases he
      refine ⟨rfl, eq_false_of_ne_true hconnected, ?_⟩
      intro link' hconnected'
      refine ⟨(h link').1.trans (h link).1.symm, ?_⟩
      rw [(h link').2, Link.answerFailure?, if_pos hconnected']
  | rejects e' h => exact .inl (h link).1

end Fate

/-! ### Handlers -/

/-- The handler has a fate for every request. -/
def Handler.HasFate {σ : Type} (h : Handler σ) : Prop :=
  ∀ speed r s, Fate s fun link => h speed r link s

namespace Handler

variable {σ : Type}

/-- Refusing every request has a fate. -/
theorem hasFate_stall : (stall (σ := σ)).HasFate := fun _ r s => .stall r s

/-- Replying has a fate. -/
theorem hasFate_reply (data : Request → σ → Bytes) :
    HasFate fun _ r link s => link.reply r (data r s) s := fun _ r s => .reply r (data r s) s

/-- Replying with no data has a fate, whatever becomes of the state. -/
theorem hasFate_replyEmpty (step : Request → σ → σ) :
    HasFate fun _ r link s => link.replyEmpty (step r s) := fun _ r s => .replyEmpty r s (step r s)

/-- Acknowledging has a fate, whatever becomes of the state. -/
theorem hasFate_acknowledge (step : Request → σ → σ) :
    HasFate fun _ r link s => link.acknowledge (step r s) :=
  fun _ r s => .acknowledge r s (step r s)

/-- A handler keeps its fate when a signal goes before it. -/
theorem HasFate.signal {h : Handler σ} (hh : h.HasFate) (reason : String) :
    HasFate fun speed r link s => h speed r (link.signal reason) s :=
  fun speed r s => (hh speed r s).prepared (·.signal reason) fun _ => rfl

/-- Replying with no data and signalling has a fate. -/
theorem hasFate_serviced : (serviced (σ := σ)).HasFate := by
  intro speed r s
  refine .commits s fun link => ?_
  have hreply : (link.replyEmpty s).failure = link.answerFailure? :=
    Link.failure_call_of_answers (r := r) (c := .send 0 []) ⟨rfl, Nat.zero_le _⟩ link s
  unfold serviced
  dsimp only
  split
  · exact ⟨link.state_replyEmpty s, hreply⟩
  · exact ⟨link.state_replyEmpty s, hreply⟩

end Handler

/-- A request for a descriptor has a fate. -/
theorem StandardRequests.hasFate_getDescriptor : getDescriptor.HasFate := by
  intro speed r m
  unfold getDescriptor
  cases m.layout? r.descriptorType r.descriptorIndex with
  | none => exact .stall r m
  | some layout =>
    exact .of_call (r := r) _ m m (fun _ => ⟨rfl, List.length_take_le _ _⟩)
      fun link => (link.told_emit layout).transport

/-- A billboard's request for a descriptor has a fate. -/
theorem BillboardProfile.hasFate_getDescriptor : BillboardProfile.getDescriptor.HasFate := by
  intro speed r m
  unfold BillboardProfile.getDescriptor
  cases m.layout? r.descriptorType r.descriptorIndex with
  | none => exact .stall r m
  | some layout =>
    refine .of_call (r := r) _ m m (fun _ => ⟨rfl, List.length_take_le _ _⟩) fun link => ?_
    split
    · exact (link.told_emit layout).transport
    · exact (link.told_emit layout).transport

/-- The standard requests to a device have a fate. -/
theorem StandardRequests.hasFate_lookup (code : UInt8) : (requests.lookup code).HasFate := by
  have hselect : setConfiguration.HasFate := by
    intro speed r m
    unfold setConfiguration
    cases m.selectConfiguration? r.value.toUInt8 with
    | none => exact .stall r m
    | some m' => exact .acknowledge r m m'
  have hinterface : getInterface.HasFate := by
    intro speed r m
    unfold getInterface
    cases m.interface? r.index.toNat with
    | none => exact .stall r m
    | some i => exact .reply r [i.state.alternate] m
  have hempty := Handler.hasFate_replyEmpty fun _ (m : Model) => m
  refine RequestTable.lookup_ofList hempty ?_ code
  simp only [List.forall_mem_cons]
  exact ⟨Handler.hasFate_reply _, Handler.hasFate_acknowledge _, Handler.hasFate_acknowledge _,
    Handler.hasFate_acknowledge _, hasFate_getDescriptor, Handler.hasFate_stall,
    Handler.hasFate_reply _, hselect, hinterface, hempty, Handler.hasFate_stall,
    Handler.hasFate_reply _, List.forall_mem_nil _⟩

/-- The standard requests to an interface have a fate. -/
theorem Interface.State.hasFate_lookup (code : UInt8) :
    (Interface.State.requests.lookup code).HasFate := by
  have hdescriptor : getDescriptor.HasFate := by
    intro speed r s
    unfold getDescriptor
    cases s.descriptors.find? r.descriptorType with
    | none => exact .stall r s
    | some bytes => exact .reply r bytes s
  have hempty := Handler.hasFate_replyEmpty fun _ (s : Interface.State) => s
  refine RequestTable.lookup_ofList hempty ?_ code
  simp only [List.forall_mem_cons]
  exact ⟨Handler.hasFate_reply _, hdescriptor, Handler.hasFate_reply _, hempty,
    List.forall_mem_nil _⟩

/-- The standard requests to an endpoint have a fate. -/
theorem Endpoint.Status.hasFate_lookup (code : UInt8) :
    (Endpoint.Status.requests.lookup code).HasFate := by
  refine RequestTable.lookup_ofList (Handler.hasFate_replyEmpty fun _ s => s) ?_ code
  simp only [List.forall_mem_cons]
  exact ⟨Handler.hasFate_reply _, Handler.hasFate_replyEmpty _, Handler.hasFate_replyEmpty _,
    List.forall_mem_nil _⟩

/-- The class requests of a hub have a fate. -/
theorem Hub.hasFate_lookup (code : UInt8) : (Hub.requests.lookup code).HasFate := by
  have hstatus : Hub.getStatus.HasFate := by
    intro speed r s
    unfold Hub.getStatus
    split
    · split
      · exact .stall r s
      · exact .reply r _ s
    · exact .reply r _ s
  have hdescriptor : Hub.getDescriptor.HasFate := by
    intro speed r s
    refine .of_call (r := r) _ s s (fun _ => ⟨rfl, List.length_take_le _ _⟩) fun link => ?_
    exact (link.told_emit Hub.descriptorLayout).transport
  have hfeature : ∀ on, (Hub.changeFeature on).HasFate := by
    intro on speed r s
    unfold Hub.changeFeature
    split
    · split
      · exact .stall r s
      · exact .acknowledge r s _
    · exact .acknowledge r s s
  refine RequestTable.lookup_ofList Handler.hasFate_serviced ?_ code
  simp only [List.forall_mem_cons]
  exact ⟨hstatus, hdescriptor, hfeature true, hfeature false, List.forall_mem_nil _⟩

/-- The class requests of a serial line have a fate: a line coding that it rejects it does not
keep. -/
theorem Cdc.hasFate_lookup (code : UInt8) : (Cdc.requests.lookup code).HasFate := by
  have hcoding : Cdc.setLineCoding.HasFate := by
    intro speed r s
    unfold Cdc.setLineCoding
    cases LineCoding.ofBytes? r.data with
    | none => exact .rejects _ fun _ => ⟨rfl, rfl⟩
    | some coding =>
      dsimp only
      split
      · exact (Fate.acknowledge r s _).prepared (·.signal _) fun _ => rfl
      · exact .rejects _ fun _ => ⟨rfl, rfl⟩
  have hget := Handler.hasFate_reply fun _ (s : State) => s.lineCoding.toBytes
  have hlines := Handler.hasFate_acknowledge fun r (s : State) => { s with controlLines := r.value }
  have hbreak := Handler.hasFate_acknowledge fun _ (s : State) => s
  refine RequestTable.lookup_ofList Handler.hasFate_serviced ?_ code
  simp only [List.forall_mem_cons]
  exact ⟨hcoding, hget.signal _, hlines.signal _, hbreak.signal _, List.forall_mem_nil _⟩

/-- The handler has a fate for every request. -/
def FunctionHandler.HasFate (h : FunctionHandler) : Prop :=
  ∀ speed r, Fate h fun link => h.serve speed r link

/-- The built-in handlers have a fate for every request. -/
theorem FunctionHandler.hasFate_of_isStock {h : FunctionHandler} (hstock : h.IsStock) :
    h.HasFate := by
  intro speed r
  cases h with
  | cdc s => exact (Cdc.hasFate_lookup r.code speed r s).map cdc rfl
  | hub s => exact (Hub.hasFate_lookup r.code speed r s).map hub rfl
  | custom h =>
    have hfate : Fate h.state fun link => h.requests.dispatch speed r link h.state := by
      rw [show h.requests = { default := Handler.serviced } from hstock]
      exact Handler.hasFate_serviced speed r h.state
    exact (hfate.map (fun s => { h with state := s }) rfl).map custom rfl

/-! ### Where handlers are mounted -/

/-- A handler of requests, with its state put back if it is of one's own making. -/
def FunctionHandler.bare : FunctionHandler → FunctionHandler
  | custom h => custom { h with state := 0 }
  | h => h

/-- Both handlers, with the states put back of those of one's own making. -/
def Functions.bare (f : Functions) : Functions :=
  ⟨f.classHandler.map (·.bare), f.vendorHandler.map (·.bare)⟩

/-- An endpoint, with the states put back of handlers of one's own making. -/
def Endpoint.bare (ep : Endpoint) : Endpoint := { ep with functions := ep.functions.bare }

/-- An interface, with the states put back of handlers of one's own making. -/
def Interface.bare (i : Interface) : Interface :=
  { i with endpoints := i.endpoints.map (·.bare), functions := i.functions.bare }

/-- A configuration, with the states put back of handlers of one's own making. -/
def Configuration.bare (c : Configuration) : Configuration :=
  { c with interfaces := c.interfaces.map (·.bare) }

/-- A model, with the states put back of handlers of one's own making. -/
def Model.bare (m : Model) : Model := { m with configurations := m.configurations.map (·.bare) }

/-- Over every link the whole serves a request by one handler, and what the handler becomes is put
in its place; the rest stays, as far as it is no state of a handler of one's own making. -/
structure Mounts {σ : Type} (bare : σ → σ) (speed : Speed) (r : Request)
    (serve? : Link → Option (Answer σ)) (s : σ) (h : FunctionHandler)
    (put : FunctionHandler → σ) : Prop where
  put_self : put h = s
  bare_put : ∀ h', h'.bare = h.bare → bare (put h') = bare s
  serve?_eq : ∀ link, serve? link = some ((h.serve speed r link).map put)

/-- A whole mounts the handlers that its part mounts, if what becomes of the part is put in its
place. -/
theorem Mounts.within {σ τ : Type} {bare : σ → σ} {bare' : τ → τ} {speed : Speed} {r : Request}
    {serve? : Link → Option (Answer σ)} {serve?' : Link → Option (Answer τ)} {s : σ} {t : τ}
    {h : FunctionHandler} {put : FunctionHandler → σ} (hm : Mounts bare speed r serve? s h put)
    (putPart : σ → τ) (hself : putPart s = t)
    (hbare : ∀ s', bare s' = bare s → bare' (putPart s') = bare' t)
    (hserve : ∀ link, serve?' link = (serve? link).map (Answer.map putPart)) :
    Mounts bare' speed r serve?' t h (putPart ∘ put) where
  put_self := (congrArg putPart hm.put_self).trans hself
  bare_put h' hh' := hbare _ (hm.bare_put h' hh')
  serve?_eq link := by
    rw [hserve, hm.serve?_eq]
    rfl

section

variable {kind : HandlerKind} (speed : Speed) (r : Request) {h : FunctionHandler}

/-- What serves in the handlers of an entity is the handler of the kind. -/
theorem Functions.mounts {f : Functions} (hget : f.get? kind = some h) :
    Mounts bare speed r (fun link => f.serve? kind speed r link) f h (f.set · kind) where
  put_self := by
    cases kind
    all_goals
      simp only [get?] at hget
      rw [set, ← hget]
  bare_put h' hh' := by
    cases kind
    all_goals
      simp only [get?] at hget
      simp only [set, bare, hget, Option.map_some, hh']
  serve?_eq link := by
    rw [serve?, hget]
    rfl

/-- What serves in an endpoint is its handler of the kind. -/
theorem Endpoint.mounts {ep : Endpoint} (hget : ep.functions.get? kind = some h) :
    ∃ put, Mounts bare speed r (fun link => ep.serveFunction? kind speed r link) ep h put := by
  refine ⟨_, (Functions.mounts speed r hget).within (fun f => { ep with functions := f }) rfl ?_
    fun _ => rfl⟩
  intro f hf
  simp only [bare, hf]

/-- What serves in an interface is the handler that it offers. -/
theorem Interface.mounts {i : Interface} (hh : i.handler? kind = some h) :
    ∃ put, Mounts bare speed r (fun link => i.serveFunction? kind speed r link) i h put := by
  simp only [serveFunction?_eq]
  rcases Option.or_eq_some_iff.1 hh with hown | ⟨hnone, hfirst⟩
  · refine ⟨_, (Functions.mounts speed r hown).within (fun f => { i with functions := f })
      rfl ?_ ?_⟩
    · intro f hf
      simp only [bare, hf]
    · intro link
      rw [Functions.serve?, hown]
      rfl
  · obtain ⟨n, ep, hep, hget, hserve⟩ := serveFirst_eq hfirst
    obtain ⟨put, hput⟩ := Endpoint.mounts speed r hget
    refine ⟨_, hput.within (fun ep => { i with endpoints := i.endpoints.set n ep }) ?_ ?_ ?_⟩
    · simp only [set_eq_self hep]
    · intro ep' hep'
      simp only [bare, map_set_eq_map hep hep']
    · intro link
      have hfirst := hserve (Endpoint.serveFunction? kind speed r link) fun ep => by
        rw [← Option.map_eq_none_iff, Endpoint.outcome_serveFunction?, Option.map_eq_none_iff]
      rw [Functions.serve?, hnone, Option.map_none, Option.map_none, Option.none_or,
        serveEndpoints, hfirst, Option.map_map]
      rfl

/-- What serves in a configuration is the handler that it offers. -/
theorem Configuration.mounts {c : Configuration} (hh : c.handler? kind = some h) :
    ∃ put, Mounts bare speed r (fun link => c.serveFunction? kind speed r link) c h put := by
  obtain ⟨n, i, hi, hget, hserve⟩ := serveFirst_eq hh
  obtain ⟨put, hput⟩ := Interface.mounts speed r hget
  refine ⟨_, hput.within (fun i => { c with interfaces := c.interfaces.set n i }) ?_ ?_ ?_⟩
  · simp only [set_eq_self hi]
  · intro i' hi'
    simp only [bare, map_set_eq_map hi hi']
  · intro link
    have hfirst := hserve (Interface.serveFunction? kind speed r link) fun i => by
      rw [← Option.map_eq_none_iff, Interface.outcome_serveFunction?, Option.map_eq_none_iff]
    rw [serveFunction?, serveInterfaces, hfirst, Option.map_map]
    rfl

end

namespace Model

variable {m : Model}

/-- What serves in the active configuration is put in its place. -/
theorem serveActive?_of_active {c : Configuration} (hc : m.activeConfiguration? = some c) :
    ∃ position, m.configurations[position]? = some c ∧
      ∀ serve : Configuration → Option (Answer Configuration), m.serveActive? serve =
        (serve c).map (Answer.map fun c =>
          { m with configurations := m.configurations.set position c }) := by
  obtain ⟨position, hactive, hposition⟩ := Option.bind_eq_some_iff.1 hc
  refine ⟨position, hposition, fun serve => ?_⟩
  rw [serveActive?_eq, hactive, Option.bind_some, hposition, Option.bind_some]

/-- What serves at a position is the interface there, which is put back in its place. -/
theorem serveInterface?_of_interface? {position : Nat} {i : Interface}
    (hi : m.interface? position = some i) :
    ∃ put : Interface → Model, put i = m ∧ ∀ serve : Interface → Answer Interface,
      m.serveInterface? position serve = some ((serve i).map put) := by
  obtain ⟨c, hc, hi⟩ := Option.bind_eq_some_iff.1 hi
  obtain ⟨n, hn, hserve⟩ := serveActive?_of_active hc
  refine ⟨fun i => { m with
    configurations := m.configurations.set n { c with
      interfaces := c.interfaces.set position i } }, ?_, fun serve => ?_⟩
  · simp only [set_eq_self hi, set_eq_self hn]
  · rw [serveInterface?, hserve, Configuration.serveInterface?, Configuration.serveInterfaces,
      serveAt_eq, hi]
    rfl

/-- What serves at a number of the model is the endpoint there, which is put back in its place. -/
theorem serveEndpoint?_of_endpoint? {number : UInt8} {ep : Endpoint}
    (hep : m.endpoint? number = some ep) :
    ∃ put : Endpoint → Model, put ep = m ∧ ∀ serve : Endpoint → Answer Endpoint,
      m.serveEndpoint? number serve = some ((serve ep).map put) := by
  obtain ⟨slot, hslot, hep⟩ := Option.bind_eq_some_iff.1 hep
  obtain ⟨c, hc, hep⟩ := Option.bind_eq_some_iff.1 hep
  obtain ⟨i, hi, hep⟩ := Option.bind_eq_some_iff.1 hep
  obtain ⟨n, hn, hserve⟩ := serveActive?_of_active hc
  refine ⟨fun ep => { m with
    configurations := m.configurations.set n { c with
      interfaces := c.interfaces.set slot.interface { i with
        endpoints := i.endpoints.set slot.endpoint ep } } }, ?_, fun serve => ?_⟩
  · simp only [set_eq_self hep, set_eq_self hi, set_eq_self hn]
  · rw [serveEndpoint?, hslot, Option.bind_some, hserve, Configuration.serveEndpoint?,
      Configuration.serveInterfaces, serveAt_eq, hi, Option.bind_some, Interface.serveEndpoints,
      serveAt_eq, hep]
    rfl

/-- What serves in a model is the handler that its active configuration offers. -/
theorem mounts {kind : HandlerKind} {h : FunctionHandler} (r : Request)
    (hh : m.handler? kind = some h) :
    ∃ put, Mounts bare m.speed r (fun link => m.serveFunction? kind r link) m h put := by
  obtain ⟨c, hc, hh⟩ := Option.bind_eq_some_iff.1 hh
  obtain ⟨position, hposition, hserve⟩ := serveActive?_of_active hc
  obtain ⟨put, hput⟩ := Configuration.mounts m.speed r hh
  refine ⟨_, hput.within
    (fun c => { m with configurations := m.configurations.set position c }) ?_ ?_ ?_⟩
  · simp only [set_eq_self hposition]
  · intro c' hc'
    simp only [bare, map_set_eq_map hposition hc']
  · exact fun link => hserve _

end Model

/-! ### The device -/

/-- The fate of a whole is that of the part that serves; if there is none, the answer is a stall. -/
theorem Fate.getD_stall {σ α : Type} {s : σ} {serve? : Link → Option (Answer σ)} {part? : Option α}
    {serve : Link → α → Answer α} (r : Request)
    (houtcome : ∀ link,
      (serve? link).map Answer.outcome = part?.map fun a => (serve link a).outcome)
    (h : ∀ a, part? = some a → ∃ put : α → σ, put a = s ∧ Fate a (serve · a) ∧
      ∀ link, serve? link = some ((serve link a).map put)) :
    Fate s fun link => (serve? link).getD (link.stall s) := by
  cases part? with
  | none =>
    have habsent link : serve? link = none := Option.map_eq_none_iff.1 (houtcome link)
    simp only [habsent, Option.getD_none]
    exact .stall r s
  | some a =>
    obtain ⟨put, hself, hfate, hserve⟩ := h a rfl
    simp only [hserve, Option.getD_some]
    exact hfate.map put hself

/-- An interface with the standard requests has a fate for each. -/
theorem Interface.Standard.fate_serve {i : Interface} (h : i.Standard) (speed : Speed)
    (r : Request) : Fate i fun link => i.serve speed r link := by
  have hfate : Fate i.state fun link => i.requests.dispatch speed r link i.state := by
    rw [h.requests]
    exact Interface.State.hasFate_lookup r.code speed r i.state
  exact hfate.map (fun s => { i with state := s }) rfl

/-- An endpoint with the standard requests has a fate for each. -/
theorem Interface.Standard.fate_serve_endpoint {i : Interface} (h : i.Standard) {ep : Endpoint}
    (hep : ep ∈ i.endpoints) (speed : Speed) (r : Request) :
    Fate ep fun link => ep.serve speed r link := by
  have hfate : Fate ep.status fun link => ep.requests.dispatch speed r link ep.status := by
    rw [h.endpoints ep hep]
    exact Endpoint.Status.hasFate_lookup r.code speed r ep.status
  exact hfate.map (fun s => { ep with status := s }) rfl

/-- A request to a model has a fate, whatever it goes to, unless that is a handler without one. -/
theorem Device.fate_serve? {requests : RequestTable Model} {m : Model}
    (hrequests : ∀ code, (requests.lookup code).HasFate) (hstandard : m.Each Interface.Standard)
    {target : Target} (hknown : ∀ kind h, target = .function kind → m.handler? kind = some h →
      h.HasFate) (r : Request) :
    Fate m fun link => (serve? requests target r link m).getD (link.stall m) := by
  cases target with
  | device => exact hrequests r.code m.speed r m
  | interface position =>
    refine .getD_stall r (fun link => m.outcome_serveInterface? position _) fun i hi => ?_
    obtain ⟨put, hself, hserve⟩ := Model.serveInterface?_of_interface? hi
    exact ⟨put, hself, (hstandard.interface? hi).fate_serve m.speed r, fun link => hserve _⟩
  | endpoint number =>
    refine .getD_stall r (fun link => m.outcome_serveEndpoint? number _) fun ep hep => ?_
    obtain ⟨put, hself, hserve⟩ := Model.serveEndpoint?_of_endpoint? hep
    obtain ⟨i, hi, hmem⟩ := hstandard.endpoint? hep
    exact ⟨put, hself, hi.fate_serve_endpoint hmem m.speed r, fun link => hserve _⟩
  | function kind =>
    refine .getD_stall r (fun link => m.outcome_serveFunction? kind r link) fun h hh => ?_
    obtain ⟨put, hput⟩ := Model.mounts r hh
    exact ⟨put, hput.put_self, hknown kind h rfl hh m.speed r, hput.serve?_eq⟩
  | nobody => exact .stall r m

/-- The device's own table has a fate for every request. -/
theorem Gadget.Standard.hasFate_lookup {g : Gadget} (h : g.Standard) (code : UInt8) :
    ((StandardRequests.requests.merge g.overrides).lookup code).HasFate := by
  refine RequestTable.lookup_merge StandardRequests.hasFate_lookup ?_ code
  intro e he
  rw [h.overrides e he]
  exact BillboardProfile.hasFate_getDescriptor

namespace Device

/-- If the request goes to a handler of class or vendor requests, that is the one of a serial line
or of a hub, or it has no requests of its own. -/
def Knows (d : Device) (r : Request) : Prop :=
  ∀ kind h, r.target d.model.policy = .function kind → d.model.handler? kind = some h → h.IsStock

/-- The request fails because the answer cannot go out: the transport is not connected, and over
any that is the same request succeeds and makes the same model. -/
structure LosesAnswer (d : Device) (r : Request) (e : UsbError) : Prop where
  failure : e = .transport .notConnected
  disconnected : d.link.transport.connected = false
  connected : ∀ link, link.transport.connected = true →
    ({ d with link := link }.handleRequest r).1.model = (d.handleRequest r).1.model ∧
      ({ d with link := link }.handleRequest r).2 = none

/-- What is left when a request fails.

* If what it goes to is known, the model is as it was, or the answer is lost.
* If it goes to a handler of one's own making, nothing has changed but the states of such. -/
structure FailsCleanly (d : Device) (r : Request) : Prop where
  known : d.Knows r → ∀ e, (d.handleRequest r).2 = some e →
    (d.handleRequest r).1.model = d.model ∨ d.LosesAnswer r e
  custom : ∀ kind h, r.target d.model.policy = .function kind →
    d.model.handler? kind = some (.custom h) → (d.handleRequest r).1.model.bare = d.model.bare

/-- A handler of one's own making decides about its own state alone. -/
theorem bare_handleRequest {d : Device} {r : Request} {kind : HandlerKind}
    {h : ClassHandler Nat} (htarget : r.target d.model.policy = .function kind)
    (hh : d.model.handler? kind = some (.custom h)) :
    (d.handleRequest r).1.model.bare = d.model.bare := by
  obtain ⟨put, hput⟩ := Model.mounts r hh
  unfold handleRequest
  rw [htarget]
  show ((d.model.serveFunction? kind r (d.link.note .setupReceived)).getD
    ((d.link.note .setupReceived).stall d.model)).state.bare = d.model.bare
  rw [hput.serve?_eq, Option.getD_some]
  exact hput.bare_put _ rfl

/-- A device whose requests all have a fate fails cleanly. -/
theorem failsCleanly {d : Device} (hrequests : ∀ code, (d.requests.lookup code).HasFate)
    (hstandard : d.model.Each Interface.Standard) (r : Request) : d.FailsCleanly r where
  known hknows e he := by
    have hknown : ∀ kind h, r.target d.model.policy = .function kind →
        d.model.handler? kind = some h → h.HasFate :=
      fun kind h htarget hh => FunctionHandler.hasFate_of_isStock (hknows kind h htarget hh)
    have hfate := (fate_serve? hrequests hstandard hknown r).prepared
      (·.note .setupReceived) fun _ => rfl
    refine (hfate.of_failure d.link he).imp_right ?_
    rintro ⟨hfailure, hdisconnected, hconnected⟩
    exact ⟨hfailure, hdisconnected, hconnected⟩
  custom _ _ htarget hh := bare_handleRequest htarget hh

/-- **A request that fails leaves the device as it was, unless the answer is lost.**  So it is for
every gadget that serves the standard requests, whatever happened to it, and for every request that
does not go to a handler of one's own making; of a stock gadget no request does. -/
theorem failsCleanly_after {g : Gadget} (hg : g.Standard) (link : Link) (actions : List Action)
    (r : Request) :
    ((ofGadget g link).after actions).FailsCleanly r ∧
      (g.Stock → ((ofGadget g link).after actions).Knows r) := by
  constructor
  · refine failsCleanly ?_ (hg.each_after Interface.standard_shape_iff hg.each link actions) r
    rw [requests_after]
    exact hg.hasFate_lookup
  · intro hstock kind h _ hh
    obtain ⟨i, hi, hcarries⟩ :=
      (hg.each_after Interface.stock_shape_iff hstock.each link actions).handler? hh
    exact hi.handlers kind h hcarries

/-- The hypothesis of `Device.failsCleanly_after` is satisfiable: a modem that was configured
without being connected keeps the control lines that it is told to set, and loses the answer. -/
theorem failsCleanly_after_modem :
    ∃ g, Profile.cdcAcm.build {} = .ok g ∧
      ((ofGadget g {}).after [.event (.setup [0, 9, 1, 0, 0, 0, 0, 0])]).LosesAnswer
        { requestType := 0x21, code := Cdc.RequestCode.setControlLineState, value := 3 }
        (.transport .notConnected) := by
  obtain ⟨g, hg⟩ : ∃ g, Profile.cdcAcm.build {} = .ok g := ⟨_, rfl⟩
  refine ⟨g, hg, ?_⟩
  obtain ⟨hclean, hknows⟩ := failsCleanly_after (.profile .cdcAcm {} hg) {}
    [.event (.setup [0, 9, 1, 0, 0, 0, 0, 0])]
    { requestType := 0x21, code := Cdc.RequestCode.setControlLineState, value := 3 }
  refine (hclean.known (hknows (.profile .cdcAcm {} hg)) _ ?_).resolve_left ?_
  · cases hg
    rfl
  · intro hkept
    have hlines := congrArg (fun m => m.handler? .classSpecific) hkept
    cases hg
    cases hlines

/-- A request that fails can change the device: one that is not connected is configured all the
same. -/
theorem not_kept_unconnected :
    ¬ ∀ (g : Gadget) (link : Link) (actions : List Action) (r : Request) (e : UsbError),
      g.Standard → (((ofGadget g link).after actions).handleRequest r).2 = some e →
      (((ofGadget g link).after actions).handleRequest r).1.model =
        ((ofGadget g link).after actions).model := by
  intro h
  obtain ⟨g, hg⟩ : ∃ g, Profile.hub.build {} = .ok g := ⟨_, rfl⟩
  have hfailure : ((ofGadget g {}).handleRequest (selectionRequest 1)).2 =
      some (.transport .notConnected) := by
    cases hg
    rfl
  have hkept := h g {} [] (selectionRequest 1) _ (.profile .hub {} hg) hfailure
  have hstate := congrArg (·.state) hkept
  cases hg
  cases hstate

end Device
end UsbGadget
