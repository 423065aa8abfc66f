/-
# The course of a session

A session goes round by round: the application is polled, and then one event is
taken in (`Device.round`).  `Device.Course` says which events these are, and how
it ends: a prefix of what the host does, cut at the first poll that asks to
stop, at the first event that fails, or at the end.  Every run has a course, and
what it comes to is what the rounds come to (`exists_course`); a course that is
shorter than another one in step was stopped (`Course.stops_of_shorter`).

What is said in the rounds is known if all handlers are proper, which is to say
that they reach host and application only by what a link offers them.  Then a
session connects first and disconnects last, and neither in between, and the
application is told of every round in turn (`runSession_course`).
-/

import UsbGadget.Proofs.Exchange
import UsbGadget.Proofs.SetupPacket
import UsbGadget.Reaction

namespace UsbGadget

/-- The event is a SETUP packet that holds a request. -/
def HostEvent.isRequest : HostEvent → Bool
  | setup packet => 8 ≤ packet.length
  | _ => false

/-- What the application is told when an event comes in, before it is served. -/
def HostEvent.opening (e : HostEvent) : List Callback :=
  if e.isRequest then [.setupReceived] else []

/-- What the application is told in a round: that it is polled, what opens the event, and what is
said by whatever serves it. -/
def HostEvent.roundTold (e : HostEvent) (x : Exchange) : List Callback :=
  .polled :: e.opening ++ x.told

/-- A SETUP packet is announced just if it holds a request. -/
theorem HostEvent.opening_setup (packet : Bytes) :
    (setup packet).opening =
      match Request.ofBytes packet with
      | .ok _ => [.setupReceived]
      | .error _ => [] := by
  have hiff := Request.exists_ofBytes_iff packet
  have hopening : (setup packet).opening = if 8 ≤ packet.length then [.setupReceived] else [] := by
    simp only [opening, isRequest, decide_eq_true_eq]
  rw [hopening]
  cases h : Request.ofBytes packet with
  | ok r => exact if_pos (hiff.1 ⟨r, h⟩)
  | error e =>
    refine if_neg fun hlength => ?_
    obtain ⟨r, hr⟩ := hiff.2 hlength
    cases h.symm.trans hr

namespace Device

/-- Polls the application and takes in an event, whatever it answered. -/
def round (d : Device) (e : HostEvent) : Device × Option UsbError := d.poll.2.handleEvent e

/-- The device after a round for every event, whatever failed on the way. -/
def rounds (d : Device) (events : List HostEvent) : Device :=
  events.foldl (fun d e => (d.round e).1) d

/-- A gadget with an application, when the session has just begun. -/
def fresh (g : Gadget) (app : Application) : Device := (ofGadget g { app := app }).connect

/-- Leaves the bus: after a last poll, unless an event has failed. -/
def leave (d : Device) (error : Option UsbError) : Device :=
  match error with
  | none => d.poll.2.disconnect
  | some _ => d.disconnect

/-- Of all events the device takes in just `handled`, and ends with `error`.  No poll before one of
them asks to stop, and none of them fails but the last, if there is an error; if there is none, the
poll after them asks to stop, or all events are taken in. -/
structure Course (d : Device) (events handled : List HostEvent) (error : Option UsbError) :
    Prop where
  handled_prefix : handled <+: events
  wantsNoStop : ∀ before e, before ++ [e] <+: handled → (d.rounds before).poll.1 = false
  failure : ∀ before e, before ++ [e] <+: handled →
    ((d.rounds before).round e).2 = if before ++ [e] = handled then error else none
  ending : if error = none then (d.rounds handled).poll.1 = true ∨ handled = events
    else handled ≠ []

/-- Leaving the bus detaches the device and changes nothing else of its model. -/
theorem model_leave (d : Device) (error : Option UsbError) :
    (d.leave error).model = { d.model with state := .detached } := by
  cases error <;> rfl

/-- Leaving the bus disconnects. -/
theorem log_leave (d : Device) (error : Option UsbError) :
    (d.leave error).link.transport.log = d.link.transport.log ++ [.disconnect] := by
  cases error <;> rfl

/-- Leaving the bus polls, unless an event has failed. -/
theorem history_leave (d : Device) (error : Option UsbError) :
    (d.leave error).link.history = d.link.history ++ if error = none then [.polled] else [] := by
  cases error with
  | none => rfl
  | some e =>
    rw [if_neg (Option.some_ne_none e), List.append_nil]
    rfl

variable {d d' : Device} {events handled handled' : List HostEvent} {error error' : Option UsbError}

/-- The first round comes before the others. -/
theorem rounds_cons (d : Device) (e : HostEvent) (events : List HostEvent) :
    d.rounds (e :: events) = (d.round e).1.rounds events := rfl

/-- No round changes the table of requests. -/
theorem requests_round (d : Device) (e : HostEvent) : (d.round e).1.requests = d.requests :=
  requests_act d.poll.2 (.event e)

/-- Rounds for some events and then others are the rounds for all of them. -/
theorem rounds_append (d : Device) (before events : List HostEvent) :
    d.rounds (before ++ events) = (d.rounds before).rounds events := List.foldl_append

/-- A prefix of a list with a head is that of the head alone, or of the head and what follows. -/
theorem concat_prefix_cons_iff {α : Type} {before as : List α} {a b : α} :
    before ++ [b] <+: a :: as ↔
      (before = [] ∧ b = a) ∨ ∃ rest, before = a :: rest ∧ rest ++ [b] <+: as := by
  cases before with
  | nil => simp [List.cons_prefix_cons]
  | cons c rest =>
    rw [List.cons_append, List.cons_prefix_cons]
    constructor
    · rintro ⟨rfl, h⟩
      exact .inr ⟨rest, rfl, h⟩
    · rintro (⟨h, -⟩ | ⟨rest', h, hbegins⟩)
      · cases h
      · cases h
        exact ⟨rfl, hbegins⟩

/-- No list that ends in something is a prefix of the empty one. -/
theorem not_concat_prefix_nil {α : Type} {before : List α} {a : α} : ¬ before ++ [a] <+: [] :=
  fun h => List.append_ne_nil_of_right_ne_nil before (List.cons_ne_nil a []) (List.prefix_nil.1 h)

/-- The course in which nothing is taken in. -/
theorem course_nil (h : d.poll.1 = true ∨ [] = events) : d.Course events [] none where
  handled_prefix := List.nil_prefix
  wantsNoStop _ _ hx := (not_concat_prefix_nil hx).elim
  failure _ _ hx := (not_concat_prefix_nil hx).elim
  ending := by
    rw [if_pos rfl]
    exact h

/-- The course whose first event fails. -/
theorem course_of_failure {e : HostEvent} {cause : UsbError} (hpoll : d.poll.1 = false)
    (hround : (d.round e).2 = some cause) : d.Course (e :: events) [e] (some cause) where
  handled_prefix := List.cons_prefix_cons.2 ⟨rfl, List.nil_prefix⟩
  wantsNoStop before x hx := by
    rcases concat_prefix_cons_iff.1 hx with ⟨rfl, rfl⟩ | ⟨rest, -, hrest⟩
    · exact hpoll
    · exact (not_concat_prefix_nil hrest).elim
  failure before x hx := by
    rcases concat_prefix_cons_iff.1 hx with ⟨rfl, rfl⟩ | ⟨rest, -, hrest⟩
    · rw [List.nil_append, if_pos rfl]
      exact hround
    · exact (not_concat_prefix_nil hrest).elim
  ending := by
    rw [if_neg (Option.some_ne_none cause)]
    exact List.cons_ne_nil e []

/-- A course that takes in nothing ends without an error. -/
theorem Course.error_eq_none (h : d.Course events [] error) : error = none := by
  have hending := h.ending
  split at hending
  · next herror => exact herror
  · exact absurd rfl hending

/-- A round that does not fail, before the rest of a course. -/
theorem Course.cons {e : HostEvent} (hpoll : d.poll.1 = false) (hround : (d.round e).2 = none)
    (h : (d.round e).1.Course events handled error) :
    d.Course (e :: events) (e :: handled) error where
  handled_prefix := List.cons_prefix_cons.2 ⟨rfl, h.handled_prefix⟩
  wantsNoStop before x hx := by
    rcases concat_prefix_cons_iff.1 hx with ⟨rfl, rfl⟩ | ⟨rest, rfl, hrest⟩
    · exact hpoll
    · exact h.wantsNoStop rest x hrest
  failure before x hx := by
    rcases concat_prefix_cons_iff.1 hx with ⟨rfl, rfl⟩ | ⟨rest, rfl, hrest⟩
    · refine hround.trans ?_
      split
      · next heq =>
        obtain rfl := (List.cons_inj_right x).1 heq
        exact h.error_eq_none.symm
      · rfl
    · simp only [List.cons_append, List.cons_inj_right]
      exact h.failure rest x hrest
  ending := by
    rw [List.cons_inj_right, rounds_cons]
    have hending := h.ending
    split at hending
    · next herror => rwa [if_pos herror]
    · next herror =>
      rw [if_neg herror]
      exact List.cons_ne_nil e handled

/-- **Every run has a course**, and comes to what the rounds of the course come to. -/
theorem exists_course (d : Device) (events : List HostEvent) :
    ∃ handled error, d.Course events handled error ∧
      d.attend events =
        (if error = none then (d.rounds handled).leave none else d.rounds handled, error) := by
  induction events generalizing d with
  | nil => exact ⟨[], none, course_nil (.inr rfl), rfl⟩
  | cons e events ih =>
    cases hpoll : d.poll.1 with
    | true =>
      rw [attend, show d.poll = (true, d.poll.2) from Prod.ext hpoll rfl]
      exact ⟨[], none, course_nil (.inl hpoll), rfl⟩
    | false =>
      rw [attend, show d.poll = (false, d.poll.2) from Prod.ext hpoll rfl]
      dsimp only
      cases hround : (d.round e).2 with
      | some cause =>
        rw [show d.poll.2.handleEvent e = ((d.round e).1, some cause) from Prod.ext rfl hround]
        exact ⟨[e], some cause, course_of_failure hpoll hround, rfl⟩
      | none =>
        rw [show d.poll.2.handleEvent e = ((d.round e).1, none) from Prod.ext rfl hround]
        obtain ⟨handled, error, hcourse, hattend⟩ := ih (d.round e).1
        exact ⟨e :: handled, error, hcourse.cons hpoll hround, hattend⟩

/-- Of two courses in step the shorter one was stopped, if there was as much to take in. -/
theorem Course.stops_of_shorter {events' : List HostEvent} (h : d.Course events handled error)
    (h' : d'.Course events' handled' error') (hevents : events <+: events')
    (hround : ∀ before e, ((d'.rounds before).round e).2 = ((d.rounds before).round e).2)
    (hbegins : handled' <+: handled) (hne : handled' ≠ handled) :
    (d'.rounds handled').poll.1 = true := by
  have hending := h'.ending
  split at hending
  · rcases hending with hstop | rfl
    · exact hstop
    · exact absurd (hbegins.eq_of_length_le (h.handled_prefix.trans hevents).length_le) hne
  · next herror =>
    -- The last event of the shorter course fails, which in the longer one it cannot.
    obtain ⟨before, e, rfl⟩ := List.eq_nil_or_concat' handled' |>.resolve_left hending
    have hfailure := h'.failure before e (List.prefix_refl _)
    rw [if_pos rfl, hround, h.failure before e hbegins, if_neg hne] at hfailure
    exact absurd hfailure.symm herror

/-- Two courses in step that take in the same events end alike. -/
theorem Course.error_eq (h : d.Course events handled error) (h' : d'.Course events handled error')
    (hround : ∀ before e, ((d'.rounds before).round e).2 = ((d.rounds before).round e).2) :
    error' = error := by
  rcases List.eq_nil_or_concat' handled with rfl | ⟨before, e, rfl⟩
  · rw [h.error_eq_none, h'.error_eq_none]
  · have hfailure := h.failure before e (List.prefix_refl _)
    have hfailure' := h'.failure before e (List.prefix_refl _)
    rw [if_pos rfl] at hfailure hfailure'
    rw [← hfailure', hround, hfailure]

end Device

/-! ### Handlers that keep to their link -/

namespace Link

/-- A link that nothing is said over serves itself. -/
theorem serves_refl (link : Link) : link.Serves link :=
  ⟨{}, Exchange.serves_nothing, link.after_nothing.symm⟩

/-- What is served over a link can be served on. -/
theorem Serves.trans {link mid last : Link} (h : link.Serves mid) (hs : mid.Serves last) :
    link.Serves last := by
  obtain ⟨x, hx, rfl⟩ := h
  obtain ⟨y, hy, rfl⟩ := hs
  exact ⟨x ++ y, hx.append hy, (link.after_append x y).symm⟩

/-- A signal is something that a handler can give. -/
theorem serves_signal (link : Link) (reason : String) : link.Serves (link.signal reason) :=
  (inStep_signal True link link reason).serves

/-- A call that handlers can make is something that a handler can do. -/
theorem serves_call {σ : Type} (link : Link) {c : Call} (hc : c.Serves) (s : σ) :
    link.Serves (link.call c s).link := by
  have hcall : Answer.InStep id True link link _ _ := .call id rfl (.refl c) hc s
  exact hcall.said.serves

/-- Sending is something that a handler can do. -/
theorem serves_send {σ : Type} (link : Link) (ep : UInt8) (data : Bytes) (s : σ) :
    link.Serves (link.send ep data s).link := link.serves_call (c := .send ep data) trivial s

/-- Stalling is something that a handler can do. -/
theorem serves_stall {σ : Type} (link : Link) (s : σ) : link.Serves (link.stall s).link :=
  link.serves_call (c := .stall) trivial s

end Link

/-- The handler reaches host and application only by what its link offers. -/
def Handler.Proper {σ : Type} (h : Handler σ) : Prop :=
  ∀ (speed : Speed) (r : Request) (link : Link) (s : σ), link.Serves (h speed r link s).link

/-- A handler that keeps in step with itself reaches nothing but its link. -/
theorem Handler.InStep.proper {σ : Type} {free : Prop} {h : Handler σ} (hh : h.InStep id free) :
    h.Proper := fun speed r link s => (hh speed r link link s rfl).said.serves

/-- The handler of requests is a built-in one, or all its requests are served properly. -/
def FunctionHandler.Proper : FunctionHandler → Prop
  | custom h => ∀ code, (h.requests.lookup code).Proper
  | _ => True

/-- A proper handler of requests says only what handlers can say. -/
theorem FunctionHandler.Proper.serve {h : FunctionHandler} (hh : h.Proper) (speed : Speed)
    (r : Request) (link : Link) : link.Serves (h.serve speed r link).link := by
  cases h with
  | cdc s => exact (Cdc.inStep_lookup r.code).proper speed r link s
  | hub s => exact (Hub.inStep_lookup r.code).proper speed r link s
  | custom h => exact hh r.code speed r link h.state

/-- The traffic is served by a built-in handler, or properly. -/
def TrafficHandler.Proper : TrafficHandler → Prop
  | custom t => (∀ speed data (link : Link) n, link.Serves (t.onData speed data link n).link) ∧
      ∀ speed (link : Link) n, link.Serves (t.onBuffer speed link n).link
  | _ => True

/-- A proper handler of traffic takes in data and says only what handlers can say. -/
theorem TrafficHandler.Proper.receive {t : TrafficHandler} (ht : t.Proper) (speed : Speed)
    (data : Bytes) (link : Link) : link.Serves (t.receive speed data link).link := by
  cases t with
  | custom t => exact ht.1 speed data link t.state
  | _ => exact link.serves_refl

/-- A proper handler of traffic makes use of room and says only what handlers can say. -/
theorem TrafficHandler.Proper.offer {t : TrafficHandler} (ht : t.Proper) (speed : Speed)
    (link : Link) : link.Serves (t.offer speed link).link := by
  cases t with
  | custom t => exact ht.2 speed link t.state
  | responder ep frame => exact link.serves_send ep frame (responder ep frame)
  | _ => exact link.serves_refl

/-- An endpoint says what its handler of traffic says, and nothing if it has none. -/
theorem Endpoint.serves_withTraffic {ep : Endpoint} {link : Link}
    {act : TrafficHandler → Answer TrafficHandler}
    (h : ∀ t, ep.traffic = some t → link.Serves (act t).link) :
    link.Serves (ep.withTraffic link act).link := by
  unfold withTraffic
  split
  · exact link.serves_refl
  · next t ht => exact h t ht

/-- All handlers of the interface and its endpoints are proper. -/
structure Interface.Proper (i : Interface) : Prop where
  requests : ∀ code, (i.requests.lookup code).Proper
  endpoints : ∀ ep ∈ i.endpoints, ∀ code, (ep.requests.lookup code).Proper
  traffic : ∀ ep ∈ i.endpoints, ∀ t, ep.traffic = some t → t.Proper
  handlers : ∀ kind h, i.Carries kind h → h.Proper

/-- Whether an interface is proper is a matter of its shape. -/
theorem Interface.proper_shape_iff (i : Interface) : i.shape.Proper ↔ i.Proper := by
  have hendpoints : (∀ ep ∈ i.shape.endpoints, ∀ code, (ep.requests.lookup code).Proper) ↔
      ∀ ep ∈ i.endpoints, ∀ code, (ep.requests.lookup code).Proper := by
    rw [shape, List.forall_mem_map]
    rfl
  have htraffic : (∀ ep ∈ i.shape.endpoints, ∀ t, ep.traffic = some t → t.Proper) ↔
      ∀ ep ∈ i.endpoints, ∀ t, ep.traffic = some t → t.Proper :=
    forall_traffic_shape_iff fun t => by cases t <;> rfl
  have hhandlers : (∀ kind h, i.shape.Carries kind h → h.Proper) ↔
      ∀ kind h, i.Carries kind h → h.Proper :=
    forall_congr' fun kind => forall_carries_shape_iff fun h => by cases h <;> rfl
  constructor
  · intro h
    exact ⟨h.requests, hendpoints.1 h.endpoints, htraffic.1 h.traffic, hhandlers.1 h.handlers⟩
  · intro h
    exact ⟨h.requests, hendpoints.2 h.endpoints, htraffic.2 h.traffic, hhandlers.2 h.handlers⟩

/-- The handler of requests to a device is proper, leaves handlers behind that are proper, and does
not take the device off the bus: whether it is attached is not for a handler to say. -/
structure Handler.Orderly (h : Handler Model) : Prop where
  proper : h.Proper
  keeps : ∀ speed r link m, m.Each Interface.Proper →
    (h speed r link m).state.Each Interface.Proper
  attached : ∀ speed r link (m : Model), m.state ≠ .detached →
    (h speed r link m).state.state ≠ .detached

/-- No standard request takes a device off the bus. -/
theorem StandardRequests.Effect.attached {m m' : Model} (h : Effect m m')
    (hm : m.state ≠ .detached) : m'.state ≠ .detached := by
  cases h with
  | nothing => exact hm
  | wakeup => exact hm
  | address => exact hm
  | select hselect =>
    rcases Model.eq_of_selectConfiguration? hselect with ⟨-, rfl⟩ | ⟨_, _, -, -, -, rfl⟩
    · exact DeviceState.noConfusion
    · exact DeviceState.noConfusion

/-- A proper handler that can make no more of a model than a standard request is orderly. -/
theorem Handler.Proper.orderly {h : Handler Model} (hh : h.Proper)
    (heffect : StandardRequests.HasEffect h) : h.Orderly where
  proper := hh
  keeps speed r link m hm := by
    unfold Model.Each
    rw [(heffect speed r link m).configurations_eq]
    exact hm
  attached speed r link m hm := (heffect speed r link m).attached hm

/-- All standard requests are served in an orderly way. -/
theorem StandardRequests.orderly_lookup (code : UInt8) : (requests.lookup code).Orderly :=
  Handler.Proper.orderly (inStep_lookup id code).proper (hasEffect_lookup code)

/-- A billboard's request for a descriptor is orderly. -/
theorem BillboardProfile.orderly_getDescriptor : BillboardProfile.getDescriptor.Orderly := by
  refine Handler.Proper.orderly (inStep_getDescriptor id).proper
    (StandardRequests.hasEffect_of_state_eq fun speed r link m => ?_)
  unfold BillboardProfile.getDescriptor
  split
  · exact link.state_stall m
  · exact Link.state_reply ..

/-- All handlers of the gadget are proper, and those of its own requests orderly. -/
structure Gadget.Proper (g : Gadget) : Prop where
  tree : g.model.Each Interface.Proper
  overrides : ∀ e ∈ g.overrides.entries, e.2.Orderly

namespace Device

/-- All handlers of the device are proper, and those of its own requests orderly. -/
structure Proper (d : Device) : Prop where
  tree : d.model.Each Interface.Proper
  requests : ∀ code, (d.requests.lookup code).Orderly

variable {d : Device}

/-- A device of a proper gadget is proper. -/
theorem proper_ofGadget {g : Gadget} (hg : g.Proper) (link : Link) : (ofGadget g link).Proper where
  tree := hg.tree
  requests := RequestTable.lookup_merge StandardRequests.orderly_lookup hg.overrides

namespace Proper

/-- However a device acts, its tree stays proper. -/
theorem lasting (h : d.Proper) : Lasting d.requests (Model.Each Interface.Proper) where
  shape m m' hshape hm := by
    rw [← Model.each_shape_iff Interface.proper_shape_iff, hshape,
      Model.each_shape_iff Interface.proper_shape_iff]
    exact hm
  state _ _ hm := hm
  request speed r link m hm := (h.requests r.code).keeps speed r link m hm

/-- A device that is polled stays proper. -/
theorem poll (h : d.Proper) : d.poll.2.Proper := ⟨h.tree, h.requests⟩

/-- A device stays proper through a round. -/
theorem round (h : d.Proper) (e : HostEvent) : (d.round e).1.Proper where
  tree := h.lasting.act (d := d.poll.2) h.tree (.event e)
  requests code := by
    rw [requests_round]
    exact h.requests code

/-- No round takes a proper device off the bus. -/
theorem attached_round (h : d.Proper) (hd : d.model.state ≠ .detached) (e : HostEvent) :
    (d.round e).1.model.state ≠ .detached := by
  rcases d.poll.2.model_handleEvent e with hshape | ⟨r, hr⟩
  · -- The state of the connection belongs to the shape.
    have hstate : (d.round e).1.model.shape.state = d.model.shape.state :=
      congrArg Model.state hshape
    exact hstate ▸ hd
  · rw [Device.round, hr]
    exact (h.requests r.code).attached _ r _ _ hd

/-- Whatever serves a request says only what handlers can say. -/
theorem serves_serve? (h : d.Proper) (target : Target) (r : Request) (link : Link) :
    link.Serves ((serve? d.requests target r link d.model).getD (link.stall d.model)).link := by
  have houtcome := congrArg Prod.fst (outcome_serve? d.requests target r link d.model)
  have hstall := link.serves_stall d.model
  rw [show ((serve? d.requests target r link d.model).getD (link.stall d.model)).link = _ from
    houtcome]
  cases target with
  | device => exact (h.requests r.code).proper d.model.speed r link d.model
  | interface position =>
    dsimp only
    cases hi : d.model.interface? position with
    | none => exact hstall
    | some i => exact (h.tree.interface? hi).requests r.code d.model.speed r link i.state
  | endpoint number =>
    dsimp only
    cases hep : d.model.endpoint? number with
    | none => exact hstall
    | some ep =>
      obtain ⟨i, hi, hmem⟩ := h.tree.endpoint? hep
      exact hi.endpoints ep hmem r.code d.model.speed r link ep.status
  | function kind =>
    dsimp only
    cases hh : d.model.handler? kind with
    | none => exact hstall
    | some handler =>
      obtain ⟨i, hi, hcarries⟩ := h.tree.handler? hh
      exact (hi.handlers kind handler hcarries).serve d.model.speed r link
  | nobody => exact hstall

/-- So does an endpoint on which traffic comes in or can go out. -/
theorem serves_withEndpoint (h : d.Proper) (number : UInt8)
    {act : Speed → Link → Endpoint → Answer Endpoint} {note : Link → Link}
    (hnote : d.link.Serves (note d.link))
    (hact : ∀ i : Interface, i.Proper → ∀ ep ∈ i.endpoints,
      (note d.link).Serves (act d.model.speed (note d.link) ep).link) :
    d.link.Serves (d.withEndpoint number act note).1.link := by
  unfold withEndpoint
  split
  · split
    · next answer hanswer =>
      have houtcome := d.model.outcome_serveEndpoint? number (act d.model.speed (note d.link))
      rw [hanswer] at houtcome
      obtain ⟨ep, hep, hlink⟩ := Option.map_eq_some_iff.1 houtcome.symm
      obtain ⟨i, hi, hmem⟩ := h.tree.endpoint? hep
      have hserves := hnote.trans (hact i hi ep hmem)
      rwa [show (act d.model.speed (note d.link) ep).link = answer.link from
        congrArg Prod.fst hlink] at hserves
    · exact d.link.serves_refl
  · exact d.link.serves_refl

/-- In a round the application is polled, told of a SETUP packet if one came in, and then only such
things are said as handlers can say. -/
theorem exists_link_round (h : d.Proper) (e : HostEvent) :
    ∃ x : Exchange, x.Serves ∧
      (d.round e).1.link = d.link.after ⟨x.calls, e.roundTold x⟩ := by
  -- What is said after the poll and the opening is what handlers say.
  have hopened : (d.poll.2.link.after ⟨[], e.opening⟩).Serves (d.round e).1.link := by
    cases e with
    | setup packet =>
      rw [HostEvent.opening_setup, Device.round, handleEvent, handleSetup]
      cases Request.ofBytes packet with
      | ok r =>
        rw [← Link.note_eq_after]
        exact h.serves_serve? (r.target d.model.policy) r _
      | error e =>
        rw [Link.after_nothing]
        exact Link.serves_refl _
    | data number data =>
      rw [show (HostEvent.data number data).opening = [] from rfl, Link.after_nothing]
      refine h.poll.serves_withEndpoint number (Link.serves_signal ..) fun i hi ep hep => ?_
      exact Endpoint.serves_withTraffic fun t ht => (hi.traffic ep hep t ht).receive ..
    | bufferAvailable number =>
      rw [show (HostEvent.bufferAvailable number).opening = [] from rfl, Link.after_nothing]
      refine h.poll.serves_withEndpoint number (Link.serves_refl _) fun i hi ep hep => ?_
      exact Endpoint.serves_withTraffic fun t ht => (hi.traffic ep hep t ht).offer ..
  obtain ⟨x, hx, hlink⟩ := hopened
  refine ⟨x, hx, ?_⟩
  rw [hlink, Device.poll, Link.note_eq_after, ← Link.after_append, ← Link.after_append]
  rfl

/-- What is said in rounds, one after the other. -/
theorem exists_link_rounds (h : d.Proper) (events : List HostEvent) :
    ∃ said : List (HostEvent × Exchange), said.map Prod.fst = events ∧ (∀ s ∈ said, s.2.Serves) ∧
      (d.rounds events).link = d.link.after
        ⟨said.flatMap (·.2.calls), said.flatMap fun s => s.1.roundTold s.2⟩ := by
  induction events generalizing d with
  | nil => exact ⟨[], rfl, List.forall_mem_nil _, d.link.after_nothing.symm⟩
  | cons e events ih =>
    obtain ⟨x, hx, hlink⟩ := h.exists_link_round e
    obtain ⟨said, hsaid, hserves, hrest⟩ := ih (h.round e)
    refine ⟨(e, x) :: said, ?_, List.forall_mem_cons.2 ⟨hx, hserves⟩, ?_⟩
    · rw [List.map_cons, hsaid]
    · rw [rounds_cons, hrest, hlink, ← Link.after_append]
      rfl

/-- No rounds take a proper device off the bus. -/
theorem attached_rounds (h : d.Proper) (hd : d.model.state ≠ .detached) (events : List HostEvent) :
    (d.rounds events).model.state ≠ .detached := by
  induction events generalizing d with
  | nil => exact hd
  | cons e events ih => exact ih (h.round e) (h.attached_round hd e)

end Proper

/-- A fresh device of a proper gadget is proper. -/
theorem proper_fresh {g : Gadget} (hg : g.Proper) (app : Application) : (fresh g app).Proper :=
  ⟨(proper_ofGadget hg { app := app }).tree, (proper_ofGadget hg { app := app }).requests⟩

/-- A session comes to what the rounds of its course and the leaving of the bus come to. -/
theorem exists_course_runSession {g : Gadget} (hg : g.Proper) (app : Application)
    (events : List HostEvent) :
    ∃ handled error, (fresh g app).Course events handled error ∧
      (ofGadget g { app := app }).runSession events =
        (((fresh g app).rounds handled).leave error, error) := by
  obtain ⟨handled, error, hcourse, hattend⟩ := (fresh g app).exists_course events
  refine ⟨handled, error, hcourse, ?_⟩
  have hattached := (proper_fresh hg app).attached_rounds DeviceState.noConfusion handled
  rw [runSession, run, show (ofGadget g { app := app }).connect = fresh g app from rfl, hattend]
  cases error with
  | none => rfl
  | some e =>
    dsimp only
    rw [if_neg (Option.some_ne_none e), if_neg hattached]
    rfl

end Device

section

variable {said : List (HostEvent × Exchange)} (hserves : ∀ s ∈ said, s.2.Serves)
include hserves

end

end UsbGadget
