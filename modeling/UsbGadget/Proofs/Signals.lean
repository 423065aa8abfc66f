/-
# A billboard differs in its signals alone

The billboard serves requests for descriptors by a handler of its own, which does
once more what the standard one does and signals when the object store was asked
for.  Left without the signals (`Link.unsignalled`), and with the standard
requests put back, a device is `Device.plain`.  A provider of replacements that is
told of no signals does not notice the difference (`Link.emit_unsignalled`), so
plain devices do in every step what the billboard does (`plain_handleEvent`).

A billboard has one interface, with neither endpoints nor handlers.  All that an
event comes to there is the request for a descriptor, or one call that does not
depend on the link, or nothing (`HostEvent.Outcome`).
-/

import UsbGadget.Proofs.Stability
import UsbGadget.Proofs.Verdict

namespace UsbGadget

/-! ### Without the signals -/

namespace Callback

/-- The callbacks without the support signals. -/
def unsignalled (history : List Callback) : List Callback := history.filter (·.reason?.isNone)

/-- Signals are forgotten in one part of a history and then in the other. -/
theorem unsignalled_append (history more : List Callback) :
    unsignalled (history ++ more) = unsignalled history ++ unsignalled more := List.filter_append ..

@[simp] theorem unsignalled_unsignalled (history : List Callback) :
    unsignalled (unsignalled history) = unsignalled history := by
  rw [unsignalled, unsignalled, List.filter_filter]
  simp only [Bool.and_self]

@[simp] theorem reasons_unsignalled (history : List Callback) :
    reasons (unsignalled history) = [] := by
  refine List.filterMap_eq_nil_iff.2 fun c hc => ?_
  exact Option.isNone_iff_eq_none.1 (List.mem_filter.1 hc).2

/-- The signals of a history are those of its parts, in order. -/
theorem reasons_append (history more : List Callback) :
    reasons (history ++ more) = reasons history ++ reasons more := List.filterMap_append ..

/-- No query is a signal. -/
theorem queries_unsignalled (history : List Callback) :
    queries (unsignalled history) = queries history := by
  rw [queries, unsignalled, List.filterMap_filter]
  refine List.filterMap_congr fun c _ => ?_
  cases c <;> rfl

end Callback

/-- What the application puts in place of descriptors does not depend on signals. -/
def Application.IgnoresSignals (app : Application) : Prop :=
  ∀ history, app.mutation (Callback.unsignalled history) = app.mutation history

/-- The application of a provider, which replaces descriptors by what was asked and told before, but
for the signals. -/
def Application.ofProvider (provider : List Callback → Stage → Bytes → Option Bytes) :
    Application where
  mutation history := provider (Callback.unsignalled history)

/-- An application that only provides replacements ignores signals. -/
theorem Application.ignoresSignals_ofProvider
    (provider : List Callback → Stage → Bytes → Option Bytes) :
    (ofProvider provider).IgnoresSignals := fun history =>
  congrArg provider (Callback.unsignalled_unsignalled history)

namespace Layout

mutual

/-- What is asked for, and what it comes to, is the same without the signals. -/
theorem exists_emit_unsignalled {app : Application} (happ : app.IgnoresSignals) :
    ∀ (l : Layout) (history : List Callback), ∃ bytes asked,
      Callback.unsignalled asked = asked ∧
      emit ⟨some app, history⟩ l = (bytes, ⟨some app, history ++ asked⟩) ∧
      emit ⟨some app, Callback.unsignalled history⟩ l =
        (bytes, ⟨some app, Callback.unsignalled history ++ asked⟩)
  | node stage frame parts, history => by
    obtain ⟨body, asked, hasked, h, h'⟩ := exists_emitAll_unsignalled happ parts history
    -- The application is asked after two histories that differ in signals alone.
    have hmutation : app.mutation (Callback.unsignalled history ++ asked) =
        app.mutation (history ++ asked) := by
      rw [← happ (history ++ asked), Callback.unsignalled_append, hasked]
    refine ⟨(app.mutation (history ++ asked) stage (frame body)).getD (frame body),
      asked ++ [.queried stage (frame body)], ?_, ?_, ?_⟩
    · rw [Callback.unsignalled_append, hasked]
      rfl
    · rw [emit, h, ← List.append_assoc]
      rfl
    · rw [emit, h', ← List.append_assoc, ← hmutation]
      rfl

/-- Plans are built alike whether signals are forgotten or not. -/
theorem exists_emitAll_unsignalled {app : Application} (happ : app.IgnoresSignals) :
    ∀ (ls : List Layout) (history : List Callback), ∃ bytes asked,
      Callback.unsignalled asked = asked ∧
      emitAll ⟨some app, history⟩ ls = (bytes, ⟨some app, history ++ asked⟩) ∧
      emitAll ⟨some app, Callback.unsignalled history⟩ ls =
        (bytes, ⟨some app, Callback.unsignalled history ++ asked⟩)
  | [], history => ⟨[], [], rfl, by rw [emitAll, List.append_nil],
      by rw [emitAll, List.append_nil]⟩
  | l :: ls, history => by
    obtain ⟨head, asked, hasked, h, h'⟩ := exists_emit_unsignalled happ l history
    obtain ⟨tail, more, hmore, hs, hs'⟩ :=
      exists_emitAll_unsignalled happ ls (history ++ asked)
    -- The questions of the first plan are no signals, so they stay in front of the others.
    rw [Callback.unsignalled_append, hasked] at hs'
    refine ⟨head ++ tail, asked ++ more, ?_, ?_, ?_⟩
    · rw [Callback.unsignalled_append, hasked, hmore]
    · rw [emitAll, h, ← List.append_assoc]
      dsimp only
      rw [hs]
    · rw [emitAll, h', ← List.append_assoc]
      dsimp only
      rw [hs']

end

end Layout

namespace Link

/-- The link without the signals that were given over it. -/
def unsignalled (link : Link) : Link :=
  { link with history := Callback.unsignalled link.history }

/-- The reasons of the signals that were given over the link. -/
def reasons (link : Link) : List String := Callback.reasons link.history

variable {σ : Type}

/-- A callback that is no signal stays when signals are forgotten. -/
theorem unsignalled_note {c : Callback} (hc : c.reason? = none) (link : Link) :
    (link.note c).unsignalled = link.unsignalled.note c := by
  have hkept : Callback.unsignalled [c] = [c] := by
    rw [Callback.unsignalled, List.filter_singleton, hc]
    rfl
  rw [unsignalled, note, Callback.unsignalled_append, hkept, unsignalled, note]

/-- A callback that is no signal gives none. -/
theorem reasons_note {c : Callback} (hc : c.reason? = none) (link : Link) :
    (link.note c).reasons = link.reasons := by
  rw [reasons, note, Callback.reasons_append, Callback.reasons, Callback.reasons,
    List.filterMap_cons_none hc, List.filterMap_nil, List.append_nil, reasons, Callback.reasons]

/-- A signal is forgotten. -/
theorem unsignalled_signal (link : Link) (reason : String) :
    (link.signal reason).unsignalled = link.unsignalled := by
  rw [unsignalled, signal, note, Callback.unsignalled_append]
  exact congrArg (fun history => { link with history := history }) (List.append_nil _)

/-- A signal is one more signal, and the last one. -/
theorem reasons_signal (link : Link) (reason : String) :
    (link.signal reason).reasons = link.reasons ++ [reason] := Callback.reasons_append ..

/-- Whether a call is refused does not depend on what the application was told. -/
theorem call_unsignalled (link : Link) (c : Call) (s : σ) :
    link.unsignalled.call c s =
      ⟨s, (link.call c s).link.unsignalled, (link.call c s).failure⟩ := by
  rw [call_eq, call_eq]
  rfl

/-- Calls to the transport give no signals. -/
theorem reasons_call (link : Link) (c : Call) (s : σ) :
    (link.call c s).link.reasons = link.reasons := by
  rw [call_eq]
  rfl

/-- Calls to the transport leave the application as it is. -/
theorem app_call (link : Link) (c : Call) (s : σ) : (link.call c s).link.app = link.app := by
  rw [call_eq]

/-- Building a descriptor gives no signals, and comes to the same if those before are forgotten. -/
theorem emit_unsignalled {link : Link} (happ : link.app.IgnoresSignals) (l : Layout) :
    link.unsignalled.emit l = ((link.emit l).1, (link.emit l).2.unsignalled) ∧
      (link.emit l).2.reasons = link.reasons := by
  obtain ⟨bytes, asked, hasked, h, h'⟩ := l.exists_emit_unsignalled happ link.history
  have hemit : link.emit l = (bytes, { link with history := link.history ++ asked }) := by
    rw [emit, h]
  constructor
  · rw [hemit, unsignalled, unsignalled, Callback.unsignalled_append, hasked, emit, h']
  · rw [hemit, reasons, Callback.reasons_append, ← hasked, Callback.reasons_unsignalled,
      List.append_nil, reasons]

end Link

/-! ### Handlers -/

/-- The handler makes one call, and neither the call nor the state depends on the link. -/
def Handler.IsCall {σ : Type} (h : Handler σ) : Prop :=
  ∀ speed r s, ∃ (c : Call) (s' : σ), ∀ link, h speed r link s = link.call c s'

/-- The handlers of a table make one call, but perhaps for that of the request for a descriptor. -/
theorem RequestTable.isCall_lookup_ofList {σ : Type} {default : Handler σ}
    {entries : List (UInt8 × Handler σ)} (hdefault : default.IsCall)
    (hentries : ∀ e ∈ entries, e.1 ≠ RequestCode.getDescriptor → e.2.IsCall) {code : UInt8}
    (hcode : code ≠ RequestCode.getDescriptor) :
    (lookup ⟨.ofList entries, default⟩ code).IsCall :=
  lookup_of_forall hdefault fun e he hkey => hentries e (Table.mem_ofList he) (hkey ▸ hcode)

/-- The standard requests to a device make one call, but for that for a descriptor. -/
theorem StandardRequests.isCall_lookup {code : UInt8} (hcode : code ≠ RequestCode.getDescriptor) :
    (requests.lookup code).IsCall := by
  have hselect : setConfiguration.IsCall := by
    intro speed r m
    unfold setConfiguration
    cases m.selectConfiguration? r.value.toUInt8 with
    | none => exact ⟨.stall, m, fun _ => rfl⟩
    | some m' => exact ⟨.acknowledge, m', fun _ => rfl⟩
  have hinterface : getInterface.IsCall := by
    intro speed r m
    unfold getInterface
    cases m.interface? r.index.toNat with
    | none => exact ⟨.stall, m, fun _ => rfl⟩
    | some i => exact ⟨_, m, fun _ => rfl⟩
  refine RequestTable.isCall_lookup_ofList (fun _ _ m => ⟨_, m, fun _ => rfl⟩) ?_ hcode
  simp only [List.forall_mem_cons]
  exact ⟨fun _ _ _ m => ⟨_, m, fun _ => rfl⟩, fun _ _ _ _ => ⟨_, _, fun _ => rfl⟩,
    fun _ _ _ _ => ⟨_, _, fun _ => rfl⟩, fun _ _ _ _ => ⟨_, _, fun _ => rfl⟩,
    fun h => absurd rfl h, fun _ _ _ m => ⟨_, m, fun _ => rfl⟩,
    fun _ _ _ m => ⟨_, m, fun _ => rfl⟩, fun _ => hselect, fun _ => hinterface,
    fun _ _ _ m => ⟨_, m, fun _ => rfl⟩, fun _ _ _ m => ⟨_, m, fun _ => rfl⟩,
    fun _ _ _ m => ⟨_, m, fun _ => rfl⟩, List.forall_mem_nil _⟩

/-- The standard requests to an interface make one call. -/
theorem Interface.State.isCall_lookup (code : UInt8) :
    (Interface.State.requests.lookup code).IsCall := by
  have hdescriptor : getDescriptor.IsCall := by
    intro speed r s
    unfold getDescriptor
    cases s.descriptors.find? r.descriptorType with
    | none => exact ⟨.stall, s, fun _ => rfl⟩
    | some bytes => exact ⟨_, s, fun _ => rfl⟩
  refine RequestTable.lookup_ofList (P := Handler.IsCall) (fun _ _ s => ⟨_, s, fun _ => rfl⟩) ?_
    code
  simp only [List.forall_mem_cons]
  exact ⟨fun _ _ s => ⟨_, s, fun _ => rfl⟩, hdescriptor, fun _ _ s => ⟨_, s, fun _ => rfl⟩,
    fun _ _ s => ⟨_, s, fun _ => rfl⟩, List.forall_mem_nil _⟩

/-- The handler of requests for a descriptor does what the standard one does, signals aside, and
gives the signals when the object store is asked for and there is one. -/
structure Handler.Describes (signals : List String) (h : Handler Model) : Prop where
  state : ∀ speed r link m, (h speed r link m).state = m
  app : ∀ speed r link m, (h speed r link m).link.app = link.app
  unsignalled : ∀ speed r link m, link.app.IgnoresSignals →
    StandardRequests.getDescriptor speed r link.unsignalled m =
      ⟨m, (h speed r link m).link.unsignalled, (h speed r link m).failure⟩
  reasons : ∀ speed r link m, link.app.IgnoresSignals → m.objectStore.isSome = true →
    (h speed r link m).link.reasons =
      link.reasons ++ if r.descriptorType = DescriptorType.objectStore then signals else []

/-- The layout of the object store is that of the object store, if there is one. -/
theorem Model.layout?_objectStore (m : Model) (index : UInt8) :
    m.layout? DescriptorType.objectStore index = m.objectStore.map (·.layout) := rfl

/-- Signals may be given once the descriptor is built. -/
theorem Handler.describes_layout? {signals : List String} {g : Request → Link → Link}
    (happ : ∀ r link, (g r link).app = link.app)
    (hunsignalled : ∀ r link, (g r link).unsignalled = link.unsignalled)
    (hreasons : ∀ r link, (g r link).reasons =
      link.reasons ++ if r.descriptorType = DescriptorType.objectStore then signals else []) :
    Handler.Describes signals fun _ r link m =>
      match m.layout? r.descriptorType r.descriptorIndex with
      | none => link.stall m
      | some layout => (g r (link.emit layout).2).reply r (link.emit layout).1 m where
  state speed r link m := by
    split
    · exact link.state_stall m
    · exact Link.state_reply ..
  app speed r link m := by
    split
    · exact link.app_call .stall m
    · exact (Link.app_call ..).trans (happ r _)
  unsignalled speed r link m hlink := by
    unfold StandardRequests.getDescriptor
    cases m.layout? r.descriptorType r.descriptorIndex with
    | none => exact link.call_unsignalled .stall m
    | some layout =>
      dsimp only
      rw [(Link.emit_unsignalled hlink layout).1, ← hunsignalled r]
      exact Link.call_unsignalled ..
  reasons speed r link m hlink hstore := by
    cases h : m.layout? r.descriptorType r.descriptorIndex with
    | none =>
      have htype : r.descriptorType ≠ DescriptorType.objectStore := by
        intro htype
        rw [htype, Model.layout?_objectStore, Option.map_eq_none_iff] at h
        rw [h] at hstore
        cases hstore
      rw [if_neg htype, List.append_nil]
      exact link.reasons_call .stall m
    | some layout =>
      refine (Link.reasons_call ..).trans ?_
      rw [hreasons, (Link.emit_unsignalled hlink layout).2]

/-- The standard request for a descriptor gives no signals. -/
theorem StandardRequests.describes_getDescriptor : getDescriptor.Describes [] :=
  Handler.describes_layout? (g := fun _ link => link) (fun _ _ => rfl) (fun _ _ => rfl)
    fun r link => by rw [ite_self, List.append_nil]

/-- A billboard's request for a descriptor gives one signal for the object store. -/
theorem BillboardProfile.describes_getDescriptor :
    getDescriptor.Describes ["billboard BOS requested"] := by
  refine Handler.describes_layout? (g := fun r link =>
    if r.descriptorType = DescriptorType.objectStore then link.signal "billboard BOS requested"
    else link) ?_ ?_ ?_
  · intro r link
    split <;> rfl
  · intro r link
    split
    · exact link.unsignalled_signal _
    · rfl
  · intro r link
    split
    · exact link.reasons_signal _
    · exact (List.append_nil _).symm

/-! ### Events on an inert tree -/

/-- The interface serves the standard requests, and has nothing else that serves. -/
structure Interface.Inert (i : Interface) : Prop where
  requests : i.requests = Interface.State.requests
  endpoints : i.endpoints = []
  functions : i.functions = {}

/-- Whether an interface is inert is a matter of its shape. -/
theorem Interface.inert_shape_iff (i : Interface) : i.shape.Inert ↔ i.Inert := by
  have hfunctions : ∀ f : Functions, f.shape = {} ↔ f = {} := by
    rintro ⟨classHandler, vendorHandler⟩
    simp only [Functions.shape, Functions.mk.injEq, Option.map_eq_none_iff]
  constructor
  · exact fun h => ⟨h.requests, List.map_eq_nil_iff.1 h.endpoints, (hfunctions _).1 h.functions⟩
  · exact fun h => ⟨h.requests, List.map_eq_nil_iff.2 h.endpoints, (hfunctions _).2 h.functions⟩

namespace Model

variable {m : Model}

/-- An inert tree has no endpoints. -/
theorem endpoint?_of_inert (hm : m.Each Interface.Inert) (number : UInt8) :
    m.endpoint? number = none := by
  rw [Option.eq_none_iff_forall_not_mem]
  intro ep hep
  obtain ⟨i, hi, hmem⟩ := hm.endpoint? hep
  rw [hi.endpoints] at hmem
  cases hmem

/-- An inert tree has no handlers of class or vendor requests. -/
theorem handler?_of_inert (hm : m.Each Interface.Inert) (kind : HandlerKind) :
    m.handler? kind = none := by
  rw [Option.eq_none_iff_forall_not_mem]
  intro handler hh
  obtain ⟨i, hi, hget | ⟨ep, hep, -⟩⟩ := hm.handler? hh
  · rw [hi.functions] at hget
    cases kind <;> cases hget
  · rw [hi.endpoints] at hep
    cases hep

end Model

/-- The table serves like the standard one, but perhaps for the request for a descriptor. -/
def StandardRequests.ServesOthers (t : RequestTable Model) : Prop :=
  ∀ code, code ≠ RequestCode.getDescriptor → t.lookup code = requests.lookup code

/-- What a request comes to, if it is not that for a descriptor of the device: one call, whatever
the link. -/
theorem Device.exists_call_serve? {m : Model} (hm : m.Each Interface.Inert) {target : Target}
    {r : Request} (hr : ¬ (target = .device ∧ r.code = RequestCode.getDescriptor)) :
    ∃ (c : Call) (m' : Model), ∀ t, StandardRequests.ServesOthers t → ∀ link : Link,
      (serve? t target r link m).getD (link.stall m) = link.call c m' := by
  -- A request to what is not there is answered with a stall.
  have habsent : (∀ t link, serve? t target r link m = none) →
      ∃ (c : Call) (m' : Model), ∀ t, StandardRequests.ServesOthers t → ∀ link : Link,
        (serve? t target r link m).getD (link.stall m) = link.call c m' := by
    intro hnone
    refine ⟨.stall, m, fun t _ link => ?_⟩
    rw [hnone, Option.getD_none, Link.stall]
  cases target with
  | device =>
    have hcode : r.code ≠ RequestCode.getDescriptor := fun hcode => hr ⟨rfl, hcode⟩
    obtain ⟨c, m', h⟩ := StandardRequests.isCall_lookup hcode m.speed r m
    refine ⟨c, m', fun t ht link => ?_⟩
    rw [serve?, Option.getD_some, RequestTable.dispatch, ht r.code hcode, h]
  | interface position =>
    cases hi : m.interface? position with
    | none => exact habsent fun _ _ => Model.serveInterface?_eq_none hi _
    | some i =>
      obtain ⟨put, -, hput⟩ := Model.serveInterface?_of_interface? hi
      obtain ⟨c, s, h⟩ := Interface.State.isCall_lookup r.code m.speed r i.state
      refine ⟨c, put { i with state := s }, fun t _ link => ?_⟩
      rw [serve?, hput, Option.getD_some, Interface.serve, (hm.interface? hi).requests,
        RequestTable.dispatch, h, Link.call_eq, Link.call_eq]
      rfl
  | endpoint number =>
    exact habsent fun _ _ => Model.serveEndpoint?_eq_none (Model.endpoint?_of_inert hm number) _
  | function kind =>
    exact habsent fun _ _ => Model.serveFunction?_eq_none (Model.handler?_of_inert hm kind) r _
  | nobody => exact habsent fun _ _ => rfl

/-- The request asks the device for its object store. -/
def Request.asksObjectStore (r : Request) : Bool :=
  decide (r.kind = .standard ∧ r.recipient = .device ∧ r.code = RequestCode.getDescriptor ∧
    r.descriptorType = DescriptorType.objectStore)

/-- The event is a SETUP packet that asks the device for its object store. -/
def HostEvent.asksObjectStore : HostEvent → Bool
  | setup packet =>
    match Request.ofBytes packet with
    | .ok r => r.asksObjectStore
    | .error _ => false
  | _ => false

/-- What an event comes to on a device of the model: its own handler of requests for a descriptor
serves, one call is made, or nothing happens.  The last two do not depend on the link. -/
inductive HostEvent.Outcome (m : Model) (e : HostEvent) : Prop where
  | describes (r : Request)
      (hasks : e.asksObjectStore = decide (r.descriptorType = DescriptorType.objectStore))
      (h : ∀ d : Device, d.model = m → d.handleEvent e =
        d.afterAnswer (d.requests.lookup RequestCode.getDescriptor m.speed r
          (d.link.note .setupReceived) m))
  | calls (c : Call) (m' : Model) (hasks : e.asksObjectStore = false)
      (h : ∀ d : Device, d.model = m → StandardRequests.ServesOthers d.requests →
        d.handleEvent e = d.afterAnswer ((d.link.note .setupReceived).call c m'))
  | idles (failure : Option UsbError) (hasks : e.asksObjectStore = false)
      (h : ∀ d : Device, d.model = m → d.handleEvent e = (d, failure))

namespace Device

/-- Traffic leaves a device with an inert tree as it is. -/
theorem withEndpoint_of_inert {d : Device} (hm : d.model.Each Interface.Inert) (number : UInt8)
    (act : Speed → Link → Endpoint → Answer Endpoint) (note : Link → Link) :
    d.withEndpoint number act note = (d, none) := by
  have habsent := Model.serveEndpoint?_eq_none (Model.endpoint?_of_inert hm number)
  unfold withEndpoint
  split
  · rw [habsent]
  · rfl

/-- With inert interfaces every event has an outcome. -/
theorem outcome_of_inert {m : Model} (hm : m.Each Interface.Inert) (e : HostEvent) :
    e.Outcome m := by
  cases e with
  | setup packet =>
    cases hr : Request.ofBytes packet with
    | error error =>
      refine .idles (some error) ?_ fun d _ => ?_
      · rw [HostEvent.asksObjectStore, hr]
      · rw [handleEvent, handleSetup, hr]
    | ok r =>
      have hasks : (HostEvent.setup packet).asksObjectStore = r.asksObjectStore := by
        rw [HostEvent.asksObjectStore, hr]
      by_cases hdescriptor : r.target m.policy = .device ∧ r.code = RequestCode.getDescriptor
      · obtain ⟨htarget, hcode⟩ := hdescriptor
        obtain ⟨hkind, hrecipient⟩ := Request.target_eq_device_iff.1 htarget
        refine .describes r ?_ fun d hd => ?_
        · rw [hasks, Request.asksObjectStore]
          simp only [hkind, hrecipient, hcode, true_and]
        · subst hd
          rw [handleEvent, handleSetup, hr]
          dsimp only
          rw [handleRequest_of_target_eq_device htarget, RequestTable.dispatch, hcode]
      · obtain ⟨c, m', h⟩ := exists_call_serve? hm hdescriptor
        refine .calls c m' ?_ fun d hd ht => ?_
        · rw [hasks, Request.asksObjectStore, decide_eq_false_iff_not]
          rintro ⟨hkind, hrecipient, hcode, -⟩
          exact hdescriptor ⟨Request.target_eq_device_iff.2 ⟨hkind, hrecipient⟩, hcode⟩
        · subst hd
          rw [handleEvent, handleSetup, hr]
          dsimp only
          rw [handleRequest, h d.requests ht]
  | data number data =>
    refine .idles none rfl fun d hd => ?_
    rw [handleEvent, handleData, withEndpoint_of_inert (hd ▸ hm)]
  | bufferAvailable number =>
    refine .idles none rfl fun d hd => ?_
    rw [handleEvent, handleBuffer, withEndpoint_of_inert (hd ▸ hm)]

/-- The device without its overrides and without the signals that it gave. -/
def plain (d : Device) : Device where
  model := d.model
  link := d.link.unsignalled

/-- A billboard, which gives the signals whenever its object store is asked for. -/
structure IsBillboard (signals : List String) (d : Device) : Prop where
  tree : d.model.Each Interface.Inert
  store : d.model.objectStore.isSome = true
  app : d.link.app.IgnoresSignals
  describes : (d.requests.lookup RequestCode.getDescriptor).Describes signals
  others : StandardRequests.ServesOthers d.requests

namespace IsBillboard

variable {signals : List String} {d : Device}

/-- **A step of a billboard, without the signals, is a step of the plain device.** -/
theorem plain_handleEvent (h : d.IsBillboard signals) (e : HostEvent) :
    d.plain.handleEvent e = ((d.handleEvent e).1.plain, (d.handleEvent e).2) := by
  have hnote := Link.unsignalled_note (c := .setupReceived) rfl d.link
  cases outcome_of_inert h.tree e with
  | describes r _ hevent =>
    rw [hevent d rfl, hevent d.plain rfl, plain, ← hnote]
    have hserved := h.describes.unsignalled d.model.speed r (d.link.note .setupReceived) d.model
      h.app
    have hstate := h.describes.state d.model.speed r (d.link.note .setupReceived) d.model
    -- The table of the plain device is the standard one, so its handler is that of `hserved`.
    refine (congrArg _ hserved).trans ?_
    rw [afterAnswer, afterAnswer, plain, hstate]
  | calls c m' _ hevent =>
    rw [hevent d rfl h.others, hevent d.plain rfl fun _ _ => rfl, plain, ← hnote,
      Link.call_unsignalled, Link.call_eq]
    rfl
  | idles failure _ hevent => rw [hevent d rfl, hevent d.plain rfl]

/-- A step gives the signals if the object store is asked for, and no others. -/
theorem reasons_handleEvent (h : d.IsBillboard signals) (e : HostEvent) :
    (d.handleEvent e).1.link.reasons =
      d.link.reasons ++ if e.asksObjectStore then signals else [] := by
  have hnote := Link.reasons_note (c := .setupReceived) rfl d.link
  cases outcome_of_inert h.tree e with
  | describes r hasks hevent =>
    rw [hevent d rfl, hasks]
    simp only [decide_eq_true_eq]
    rw [← hnote]
    exact h.describes.reasons d.model.speed r _ d.model h.app h.store
  | calls c m' hasks hevent =>
    rw [hevent d rfl h.others, hasks, if_neg Bool.false_ne_true, List.append_nil, ← hnote]
    exact Link.reasons_call _ c m'
  | idles failure hasks hevent =>
    rw [hevent d rfl, hasks, if_neg Bool.false_ne_true, List.append_nil]

/-- No event replaces the application of a billboard. -/
theorem app_handleEvent (h : d.IsBillboard signals) (e : HostEvent) :
    (d.handleEvent e).1.link.app = d.link.app := by
  cases outcome_of_inert h.tree e with
  | describes r _ hevent =>
    rw [hevent d rfl]
    exact h.describes.app ..
  | calls c m' _ hevent =>
    rw [hevent d rfl h.others]
    exact Link.app_call _ c m'
  | idles failure _ hevent => rw [hevent d rfl]

/-- All requests to a billboard itself have the effect of standard requests. -/
theorem hasEffect_lookup (h : d.IsBillboard signals) (code : UInt8) :
    StandardRequests.HasEffect (d.requests.lookup code) := by
  by_cases hcode : code = RequestCode.getDescriptor
  · rw [hcode]
    exact StandardRequests.hasEffect_of_state_eq h.describes.state
  · rw [h.others code hcode]
    exact StandardRequests.hasEffect_lookup code

/-- A billboard stays one. -/
theorem handleEvent (h : d.IsBillboard signals) (e : HostEvent) :
    (d.handleEvent e).1.IsBillboard signals := by
  have hrequests : (d.handleEvent e).1.requests = d.requests := d.requests_act (.event e)
  have hstore : Lasting d.requests fun m => m.objectStore.isSome = true :=
    { shape := fun m m' hshape hm => by
        have hstore : m'.objectStore = m.objectStore := congrArg (·.objectStore) hshape
        rwa [hstore]
      state := fun _ _ hm => hm
      request := fun speed r link m hm => by
        have hface := (h.hasEffect_lookup r.code speed r link m).face_eq
        have hstore : (d.requests.dispatch speed r link m).state.objectStore = m.objectStore :=
          congrArg (·.objectStore) hface
        rwa [hstore] }
  constructor
  · exact (Model.lasting_each Interface.inert_shape_iff fun code speed r link m =>
      (h.hasEffect_lookup code speed r link m).configurations_eq).act h.tree (.event e)
  · exact hstore.act h.store (.event e)
  · rw [h.app_handleEvent]
    exact h.app
  · rw [hrequests]
    exact h.describes
  · rw [hrequests]
    exact h.others

/-- **A run of a billboard, without the signals, is the run of the plain device**, and the signals
are given once for every event that asks for the object store. -/
theorem after (h : d.IsBillboard signals) (events : List HostEvent) :
    (d.after (events.map .event)).IsBillboard signals ∧
      d.plain.after (events.map .event) = (d.after (events.map .event)).plain ∧
      (d.after (events.map .event)).link.reasons = d.link.reasons ++
        (List.replicate (events.countP (·.asksObjectStore)) signals).flatten := by
  induction events generalizing d with
  | nil => exact ⟨h, rfl, (List.append_nil _).symm⟩
  | cons e events ih =>
    obtain ⟨hlast, hplain, hreasons⟩ := ih (h.handleEvent e)
    have hstep : d.plain.act (.event e) = (d.act (.event e)).plain :=
      congrArg Prod.fst (h.plain_handleEvent e)
    refine ⟨hlast, ?_, ?_⟩
    · rw [List.map_cons, Device.after, List.foldl_cons, hstep]
      exact hplain
    · refine hreasons.trans ?_
      rw [h.reasons_handleEvent, List.append_assoc, List.countP_cons]
      cases e.asksObjectStore with
      | true =>
        rw [if_pos rfl, if_pos rfl, List.replicate_succ, List.flatten_cons]
      | false =>
        rw [if_neg Bool.false_ne_true, if_neg Bool.false_ne_true, List.nil_append, Nat.add_zero]

end IsBillboard

end Device

namespace BillboardProfile

/-- The billboard gives its signal whenever its object store is asked for, and without the override
it gives none. -/
theorem isBillboard_of_build {o : ProfileOptions} {g : Gadget}
    (h : Profile.billboard.build o = .ok g) {link : Link} (happ : link.app.IgnoresSignals) :
    (Device.ofGadget g link).connect.IsBillboard ["billboard BOS requested"] ∧
      (Device.ofGadget { model := g.model } link).connect.IsBillboard [] := by
  have htree : g.model.Each Interface.Inert :=
    Profile.each_of_interfaces (fun _ _ hi => ⟨hi.requests, hi.endpoints, hi.functions⟩) h
      (List.forall_mem_singleton.2 ⟨rfl, rfl, rfl⟩)
  obtain ⟨m, hm, hg⟩ := exists_of_bind_eq_ok h
  obtain ⟨n, -, hn⟩ := exists_of_bind_eq_ok hm
  cases hn
  cases hg
  have hlookup : ∀ code, (StandardRequests.requests.merge
      (.ofList [(RequestCode.getDescriptor, getDescriptor)])).lookup code =
        if RequestCode.getDescriptor = code then getDescriptor
        else StandardRequests.requests.lookup code :=
    fun code => StandardRequests.requests.lookup_set RequestCode.getDescriptor code getDescriptor
  constructor
  · refine ⟨htree, rfl, happ, ?_, fun code hcode => ?_⟩
    · refine (hlookup RequestCode.getDescriptor).symm ▸ ?_
      exact describes_getDescriptor
    · exact (hlookup code).trans (if_neg hcode.symm)
  · exact ⟨htree, rfl, happ, StandardRequests.describes_getDescriptor, fun _ _ => rfl⟩

/-- **A billboard differs from the same device with the standard requests in its signals alone.**
Whatever the provider of replacements and whatever the host does once the device is connected, both
have the same model, have made the same calls, have asked for the same and been told the same but
for the signals, and fail alike at every event.  The billboard has given its signal once for every
standard request to the device for the object store, and for nothing else; the other one has given
none. -/
theorem differsInSignals_after (o : ProfileOptions)
    (provider : List Callback → Stage → Bytes → Option Bytes) (link : Link)
    (events : List HostEvent) :
    ∃ g, Profile.billboard.build o = .ok g ∧
      let start : Link := { link with app := .ofProvider provider }
      let d := (Device.ofGadget g start).connect.after (events.map .event)
      let d' := (Device.ofGadget { model := g.model } start).connect.after (events.map .event)
      d'.model = d.model ∧
      d'.link.transport = d.link.transport ∧
      Callback.unsignalled d'.link.history = Callback.unsignalled d.link.history ∧
      Callback.queries d'.link.history = Callback.queries d.link.history ∧
      Callback.reasons d.link.history = Callback.reasons link.history ++
        List.replicate (events.countP (·.asksObjectStore)) "billboard BOS requested" ∧
      Callback.reasons d'.link.history = Callback.reasons link.history ∧
      ∀ e, (d'.handleEvent e).2 = (d.handleEvent e).2 := by
  obtain ⟨g, hg⟩ := Profile.exists_build .billboard o
  refine ⟨g, hg, ?_⟩
  intro start d d'
  have happ : start.app.IgnoresSignals := Application.ignoresSignals_ofProvider provider
  obtain ⟨hbillboard, hstandard⟩ := isBillboard_of_build hg happ
  obtain ⟨hd, hplain, hreasons⟩ := hbillboard.after events
  obtain ⟨hd', hplain', hreasons'⟩ := hstandard.after events
  have heq : d'.plain = d.plain := hplain'.symm.trans hplain
  have hmodel : d'.plain.model = d.plain.model := congrArg Device.model heq
  have hlink : d'.link.unsignalled = d.link.unsignalled := congrArg Device.link heq
  have htransport : d'.link.unsignalled.transport = d.link.unsignalled.transport :=
    congrArg Link.transport hlink
  have hhistory : Callback.unsignalled d'.link.history = Callback.unsignalled d.link.history :=
    congrArg Link.history hlink
  refine ⟨hmodel, htransport, hhistory, ?_, ?_, ?_, fun e => ?_⟩
  · rw [← Callback.queries_unsignalled, hhistory, Callback.queries_unsignalled]
  · rw [List.flatten_replicate_singleton] at hreasons
    exact hreasons
  · rw [List.flatten_replicate_nil, List.append_nil] at hreasons'
    exact hreasons'
  · have hstep := congrArg Prod.snd (hd.plain_handleEvent e)
    rw [← heq, hd'.plain_handleEvent] at hstep
    exact hstep

end BillboardProfile

end UsbGadget
