/-
# Line codings are read back

A serial line keeps the last line coding that it accepted, and the last state of
its control lines, and it does so through everything that happens to its device:
line codings that it rejects, configurations that are left and selected again,
sessions that end and begin.

`Cdc.Acceptable` says which data stage it accepts, and `Cdc.state_dispatch` what
one class request makes of its state.  Class requests reach it whenever the one
configuration of its profile is active (`Device.CarriesLine.handlerFor?_eq_some_iff`),
so the run follows by `Device.after_lastWrite` (`Device.serialLine_after`).
-/

import UsbGadget.Proofs.ControlPlane
import UsbGadget.Proofs.Delivery
import UsbGadget.Proofs.Failure

namespace UsbGadget

namespace Cdc

/-- The data stage holds a line coding that a serial line takes: there are seven bytes, and those
for the stop bits and the parity have a meaning. -/
def Acceptable (data : Bytes) : Prop :=
  7 ≤ data.length ∧ data.getD 4 0 ≤ 2 ∧ data.getD 5 0 ≤ 4

instance (data : Bytes) : Decidable (Acceptable data) := inferInstanceAs (Decidable (_ ∧ _ ∧ _))

/-- A coding that was read has the first seven bytes of the data as its own seven bytes. -/
theorem LineCoding.toBytes_of_ofBytes? {data : Bytes} {coding : LineCoding}
    (h : ofBytes? data = some coding) : coding.toBytes = data.take 7 := by
  unfold ofBytes? at h
  split at h
  · cases h
    rw [toBytes, Bytes.ofLong_long]
    rfl
  · cases h

/-- Data is acceptable exactly when it reads as a coding whose three small fields are in range. -/
theorem acceptable_iff {data : Bytes} :
    Acceptable data ↔ ∃ coding, LineCoding.ofBytes? data = some coding ∧ coding.IsValid := by
  unfold LineCoding.ofBytes?
  split
  · next r₀ r₁ r₂ r₃ stopBits parity dataBits rest =>
    constructor
    · rintro ⟨-, hstop, hparity⟩
      exact ⟨_, rfl, hstop, hparity⟩
    · rintro ⟨_, ⟨⟩, hstop, hparity⟩
      refine ⟨?_, hstop, hparity⟩
      simp only [List.length_cons]
      omega
  · next hshort =>
    refine iff_of_false ?_ ?_
    · rintro ⟨hlength, -⟩
      match data, hlength with
      | _ :: _ :: _ :: _ :: _ :: _ :: _ :: _, _ => exact hshort _ _ _ _ _ _ _ _ rfl
    · rintro ⟨_, ⟨⟩, -⟩

variable {r : Request}

/-- SET_LINE_CODING is one of the requests of the CDC table. -/
theorem lookup_setLineCoding (h : r.code = RequestCode.setLineCoding) :
    requests.lookup r.code = setLineCoding := by
  rw [h]
  rfl

/-- GET_LINE_CODING is one of the requests of the CDC table. -/
theorem lookup_getLineCoding (h : r.code = RequestCode.getLineCoding) :
    requests.lookup r.code = getLineCoding := by
  rw [h]
  rfl

/-- SET_CONTROL_LINE_STATE is one of the requests of the CDC table. -/
theorem lookup_setControlLineState (h : r.code = RequestCode.setControlLineState) :
    requests.lookup r.code = setControlLineState := by
  rw [h]
  rfl

/-- Acceptable data sets the coding to its first seven bytes and is acknowledged. -/
theorem setLineCoding_of_acceptable (h : Acceptable r.data) :
    ∃ coding : LineCoding, coding.toBytes = r.data.take 7 ∧ ∀ speed link s,
      setLineCoding speed r link s =
        (link.signal "cdc set line coding").acknowledge { s with lineCoding := coding } := by
  obtain ⟨coding, hcoding, hvalid⟩ := acceptable_iff.1 h
  refine ⟨coding, LineCoding.toBytes_of_ofBytes? hcoding, fun speed link s => ?_⟩
  unfold setLineCoding
  rw [hcoding]
  exact if_pos hvalid

/-- Data that is not acceptable leaves the state and the link alone and ends in an error. -/
theorem setLineCoding_of_not_acceptable (h : ¬ Acceptable r.data) :
    ∃ e, ∀ speed link s, setLineCoding speed r link s = ⟨s, link, some e⟩ := by
  unfold setLineCoding
  cases hcoding : LineCoding.ofBytes? r.data with
  | none => exact ⟨_, fun _ _ _ => rfl⟩
  | some coding =>
    have hvalid : ¬ coding.IsValid := fun hvalid => h (acceptable_iff.2 ⟨coding, hcoding, hvalid⟩)
    exact ⟨_, fun _ _ _ => if_neg hvalid⟩

/-- What a class request makes of the state of a serial line: it sets the line coding, or the state
of the control lines, or nothing. -/
theorem state_dispatch (speed : Speed) (r : Request) (link : Link) (s : State) :
    (∃ coding : LineCoding, r.code = RequestCode.setLineCoding ∧ Acceptable r.data ∧
        coding.toBytes = r.data.take 7 ∧
          (requests.dispatch speed r link s).state = { s with lineCoding := coding }) ∨
      (r.code = RequestCode.setControlLineState ∧
        (requests.dispatch speed r link s).state = { s with controlLines := r.value }) ∨
      (¬ (r.code = RequestCode.setLineCoding ∧ Acceptable r.data) ∧
        r.code ≠ RequestCode.setControlLineState ∧
          (requests.dispatch speed r link s).state = s) := by
  unfold RequestTable.dispatch
  by_cases hset : r.code = RequestCode.setLineCoding
  · rw [lookup_setLineCoding hset]
    by_cases hdata : Acceptable r.data
    · obtain ⟨coding, hbytes, hserve⟩ := setLineCoding_of_acceptable hdata
      refine .inl ⟨coding, hset, hdata, hbytes, ?_⟩
      rw [hserve, Link.state_acknowledge]
    · obtain ⟨e, hserve⟩ := setLineCoding_of_not_acceptable hdata
      refine .inr (.inr ⟨fun h => hdata h.2, ?_, ?_⟩)
      · rw [hset]
        decide
      · rw [hserve]
  · by_cases hlines : r.code = RequestCode.setControlLineState
    · refine .inr (.inl ⟨hlines, ?_⟩)
      rw [lookup_setControlLineState hlines, setControlLineState, Link.state_acknowledge]
    · refine .inr (.inr ⟨fun h => hset h.1, hlines, ?_⟩)
      refine RequestTable.lookup_of_forall
        (P := fun h : Handler State => (h speed r link s).state = s) ?_ ?_
      · exact Handler.state_serviced speed r link s
      · intro e he hcode
        have hlisted := Table.mem_ofList he
        simp only [List.mem_cons, List.not_mem_nil, or_false] at hlisted
        rcases hlisted with rfl | rfl | rfl | rfl
        · exact absurd hcode.symm hset
        · exact Link.state_reply ..
        · exact absurd hcode.symm hlines
        · exact Link.state_acknowledge ..

/-- The place of the handler in the profiles of a serial line. -/
def line : Entity := ⟨0, 0, .handler .classSpecific⟩

end Cdc

/-- The own handler of the first interface is the first of its kind in the active configuration. -/
theorem Model.firstHandler?_of_stateOf? {m : Model} {position : Nat} {kind : HandlerKind}
    {h : FunctionHandler} (hactive : m.active = some position)
    (hstate : m.stateOf? ⟨position, 0, .handler kind⟩ = some (.function h)) :
    m.firstHandler? kind = some ⟨position, 0, .handler kind⟩ := by
  obtain ⟨c, hc, hpart⟩ := Option.bind_eq_some_iff.1 hstate
  obtain ⟨i, hi, hpart⟩ := Option.bind_eq_some_iff.1 hpart
  obtain ⟨h', hget, heq⟩ := Option.map_eq_some_iff.1 hpart
  cases heq
  refine firstHandler?_eq_some_iff.2 ⟨c, h, ⟨hactive, hc⟩, ⟨i, hi, .own hget⟩, ?_⟩
  exact fun earlier hearlier => nomatch hearlier

/-- The number of configurations is one of the facts that no standard request changes. -/
theorem Model.lasting_length (n : Nat) :
    Device.Lasting StandardRequests.requests fun m => m.configurations.length = n where
  shape m m' hshape h := by
    have hlength := congrArg (·.configurations.length) hshape
    simp only [shape, List.length_map] at hlength
    exact hlength.trans h
  state _ _ h := h
  request speed r link m h := by
    rw [(StandardRequests.effect speed r link m).configurations_eq]
    exact h

/-- The only configuration is the one that is active, if one is. -/
theorem Model.Routed.active_eq_zero {m : Model} (h : m.Routed)
    (hsingle : m.configurations.length = 1) (hactive : m.active.isSome) : m.active = some 0 := by
  obtain ⟨position, hposition⟩ := Option.isSome_iff_exists.1 hactive
  obtain ⟨c, hc, -⟩ := h.active position hposition
  obtain ⟨hlt, -⟩ := List.getElem?_eq_some_iff.1 hc
  rw [hsingle] at hlt
  rw [hposition, Nat.lt_one_iff.1 hlt]

namespace Device

/-- The device has one configuration, and the first interface of that carries a serial line. -/
structure CarriesLine (d : Device) (s : Cdc.State) : Prop where
  requests : d.requests = StandardRequests.requests
  routed : d.model.Routed
  single : d.model.configurations.length = 1
  state : d.model.stateOf? Cdc.line = some (.function (.cdc s))

namespace CarriesLine

variable {d : Device} {s : Cdc.State}

/-- An active configuration of a device that carries the line is its only one. -/
theorem active_eq (h : d.CarriesLine s) (hactive : d.model.active.isSome) :
    d.model.active = some 0 :=
  h.routed.active_eq_zero h.single hactive

/-- Class requests reach the serial line while a configuration is active, and nothing else does. -/
theorem handlerFor?_eq_some_iff (h : d.CarriesLine s) (r : Request) :
    d.handlerFor? r = some Cdc.line ↔ r.kind = .classSpecific ∧ d.model.active.isSome := by
  constructor
  · intro hfor
    obtain ⟨kind, hkind, hfirst⟩ := Option.bind_eq_some_iff.1 hfor
    obtain ⟨c, handler, hactive, hoffers⟩ := Model.firstHandler?_eq_some_iff.1 hfirst
    obtain ⟨i, -, hpart⟩ := hoffers.offers
    cases hpart with
    | own =>
      have haddresses : r.Addresses d.model.policy (.function .classSpecific) :=
        Request.addresses_function_iff.2 hkind
      cases haddresses with
      | classSpecific hr => exact ⟨hr, Option.isSome_iff_exists.2 ⟨_, hactive.1⟩⟩
  · rintro ⟨hkind, hactive⟩
    have hr : r.handlerKind? = some .classSpecific := by
      rw [Request.handlerKind?, hkind]
    rw [handlerFor?, hr, Option.bind_some]
    exact Model.firstHandler?_of_stateOf? (h.active_eq hactive) h.state

/-- The serial line serves what reaches it, and what becomes of it is put in its place. -/
theorem handleRequest_eq (h : d.CarriesLine s) {r : Request} (hkind : r.kind = .classSpecific)
    (hactive : d.model.active.isSome) :
    ∃ put : Cdc.State → Model, put s = d.model ∧ d.handleRequest r =
      d.afterAnswer
        ((Cdc.requests.dispatch d.model.speed r (d.link.note .setupReceived) s).map put) := by
  have hfirst := Model.firstHandler?_of_stateOf? (h.active_eq hactive) h.state
  obtain ⟨put, hput⟩ := Model.mounts r (Model.handler?_of_firstHandler? hfirst h.state)
  refine ⟨fun s => put (.cdc s), hput.put_self, ?_⟩
  rw [Device.handleRequest, Request.target, hkind]
  dsimp only [serve?]
  rw [hput.serve?_eq]
  rfl

/-- An action that is not a request leaves the line as it was. -/
theorem act_of_request?_eq_none (h : d.CarriesLine s) {a : Action} (ha : a.request? = none) :
    (d.act a).CarriesLine s := by
  have hlasting := Model.lasting_routed.and (Model.lasting_length 1)
  obtain ⟨hrouted, hsingle⟩ := Lasting.act (h.requests ▸ hlasting) ⟨h.routed, h.single⟩ a
  refine ⟨(d.requests_act a).trans h.requests, hrouted, hsingle, ?_⟩
  rw [stateOf?_act_of_request?_eq_none (fun _ => Interface.Part.noConfusion) ha, h.state]

/-- A class request that comes in while a configuration is active is served by the serial line, and
nothing else changes its state. -/
theorem handleRequest (h : d.CarriesLine s) (r : Request) :
    (d.handleRequest r).1.CarriesLine
      (if r.kind = .classSpecific ∧ d.model.active.isSome then
        (Cdc.requests.dispatch d.model.speed r (d.link.note .setupReceived) s).state
      else s) := by
  have hlasting := Model.lasting_routed.and (Model.lasting_length 1)
  obtain ⟨hrouted, hsingle⟩ := Lasting.handleRequest (h.requests ▸ hlasting) ⟨h.routed, h.single⟩ r
  refine ⟨h.requests, hrouted, hsingle, ?_⟩
  rw [stateOf?_handleRequest_of_function
    (h.requests ▸ fun code => StandardRequests.spares_lookup code _) h.state]
  simp only [h.handlerFor?_eq_some_iff]
  split <;> rfl

end CarriesLine

/-- The request reaches the serial line with the code. -/
def ReachesLine (d : Device) (r : Request) (code : UInt8) : Prop :=
  (r.kind = .classSpecific ∧ d.model.active.isSome) ∧ r.code = code

instance (d : Device) (r : Request) (code : UInt8) : Decidable (d.ReachesLine r code) :=
  inferInstanceAs (Decidable (_ ∧ _))

/-- The data stage of a request that comes in and sets the line coding, if it does. -/
def codingWrite? (x : Device × Request) : Option Bytes :=
  if x.1.ReachesLine x.2 Cdc.RequestCode.setLineCoding ∧ Cdc.Acceptable x.2.data then some x.2.data
  else none

/-- The state of the control lines that a request sets which comes in, if it does. -/
def linesWrite? (x : Device × Request) : Option UInt16 :=
  if x.1.ReachesLine x.2 Cdc.RequestCode.setControlLineState then some x.2.value else none

variable {d : Device} {s : Cdc.State}

/-- A request writes the line coding, or the state of the control lines, or leaves both alone. -/
theorem CarriesLine.exists_handleRequest (h : d.CarriesLine s) (r : Request) :
    ∃ s', (d.handleRequest r).1.CarriesLine s' ∧
      s'.lineCoding.toBytes =
        ((codingWrite? (d, r)).map (·.take 7)).getD s.lineCoding.toBytes ∧
      s'.controlLines = (linesWrite? (d, r)).getD s.controlLines := by
  refine ⟨_, h.handleRequest r, ?_⟩
  unfold codingWrite? linesWrite? ReachesLine
  by_cases hreach : r.kind = .classSpecific ∧ d.model.active.isSome
  · simp only [hreach, true_and, and_self, if_true]
    rcases Cdc.state_dispatch d.model.speed r (d.link.note .setupReceived) s with
      ⟨coding, hcode, hdata, hbytes, hstate⟩ | ⟨hcode, hstate⟩ | ⟨hset, hlines, hstate⟩
    · have hother : r.code ≠ Cdc.RequestCode.setControlLineState := by
        rw [hcode]
        decide
      rw [hstate, if_pos ⟨hcode, hdata⟩, if_neg hother]
      exact ⟨hbytes, rfl⟩
    · have hother : r.code ≠ Cdc.RequestCode.setLineCoding := by
        rw [hcode]
        decide
      rw [hstate, if_neg fun hset => hother hset.1, if_pos hcode]
      exact ⟨rfl, rfl⟩
    · rw [hstate, if_neg hset, if_neg hlines]
      exact ⟨rfl, rfl⟩
  · simp only [hreach, false_and, if_false]
    exact ⟨rfl, rfl⟩

/-- After a run the serial line holds the line coding and the control lines that were set last. -/
theorem CarriesLine.after (h : d.CarriesLine {}) (actions : List Action) :
    ∃ s, (d.after actions).CarriesLine s ∧
      s.lineCoding.toBytes =
        (lastWrite codingWrite? [0x00, 0xc2, 0x01, 0, 0, 0, 8] (d.arrivals actions)).take 7 ∧
      s.controlLines = lastWrite linesWrite? 0 (d.arrivals actions) := by
  have hcoding : ∃ s, (d.after actions).CarriesLine s ∧ s.lineCoding.toBytes =
      (lastWrite codingWrite? [0x00, 0xc2, 0x01, 0, 0, 0, 8] (d.arrivals actions)).take 7 := by
    refine after_lastWrite (P := fun d' b => ∃ s, d'.CarriesLine s ∧
      s.lineCoding.toBytes = List.take 7 b) ?_ ?_ h.requests ⟨_, h, rfl⟩ actions
    · rintro d' a b - ha ⟨s, hs, hb⟩
      exact ⟨s, hs.act_of_request?_eq_none ha, hb⟩
    · rintro d' b r - ⟨s, hs, hb⟩
      obtain ⟨s', hs', hwritten, -⟩ := hs.exists_handleRequest r
      refine ⟨s', hs', hwritten.trans ?_⟩
      rw [hb, Option.getD_map]
  have hlines : ∃ s, (d.after actions).CarriesLine s ∧
      s.controlLines = lastWrite linesWrite? 0 (d.arrivals actions) := by
    refine after_lastWrite (P := fun d' b => ∃ s, d'.CarriesLine s ∧ s.controlLines = b) ?_ ?_
      h.requests ⟨_, h, rfl⟩ actions
    · rintro d' a b - ha ⟨s, hs, hb⟩
      exact ⟨s, hs.act_of_request?_eq_none ha, hb⟩
    · rintro d' b r - ⟨s, hs, rfl⟩
      obtain ⟨s', hs', -, hwritten⟩ := hs.exists_handleRequest r
      exact ⟨s', hs', hwritten⟩
  obtain ⟨s, hs, hcoding⟩ := hcoding
  obtain ⟨s', hs', hlines⟩ := hlines
  -- What the entity keeps is the same state twice.
  cases hs.state.symm.trans hs'.state
  exact ⟨s, hs, hcoding, hlines⟩

/-- The device acknowledges the request, and the application is told once that the host used the
function. -/
def Acknowledges (d : Device) (r : Request) (reason : String) : Prop :=
  (d.handleRequest r).2 = none ∧
    (d.handleRequest r).1.link.transport.log = d.link.transport.log ++ [.acknowledge] ∧
    (d.handleRequest r).1.link.history = d.link.history ++ [.setupReceived, .supported reason]

/-- The device rejects the request: it fails, without a call to the transport and without a word to
the application but that a SETUP packet came in, and keeps its model. -/
def Rejects (d : Device) (r : Request) : Prop :=
  ∃ e, d.handleRequest r = ({ d with link := d.link.note .setupReceived }, some e)

/-- An acceptable line coding that reaches the line is acknowledged. -/
theorem CarriesLine.acknowledges (h : d.CarriesLine s) {r : Request}
    (hconnected : d.link.transport.connected = true)
    (hreach : d.ReachesLine r Cdc.RequestCode.setLineCoding) (hdata : Cdc.Acceptable r.data) :
    d.Acknowledges r "cdc set line coding" := by
  obtain ⟨⟨hkind, hactive⟩, hcode⟩ := hreach
  obtain ⟨put, -, heq⟩ := h.handleRequest_eq hkind hactive
  obtain ⟨coding, -, hserve⟩ := Cdc.setLineCoding_of_acceptable hdata
  have htold : ((d.link.note .setupReceived).signal "cdc set line coding").transport.connected =
      true := hconnected
  have hcall := Link.call_of_connected (r := r) (c := .acknowledge) htold trivial
    ({ s with lineCoding := coding } : Cdc.State)
  unfold Acknowledges
  rw [heq, RequestTable.dispatch, Cdc.lookup_setLineCoding hcode, hserve, Link.acknowledge, hcall]
  refine ⟨rfl, rfl, ?_⟩
  exact List.append_assoc ..

/-- A line coding that is not acceptable is rejected by the line. -/
theorem CarriesLine.rejects (h : d.CarriesLine s) {r : Request}
    (hreach : d.ReachesLine r Cdc.RequestCode.setLineCoding) (hdata : ¬ Cdc.Acceptable r.data) :
    d.Rejects r := by
  obtain ⟨⟨hkind, hactive⟩, hcode⟩ := hreach
  obtain ⟨put, hself, heq⟩ := h.handleRequest_eq hkind hactive
  obtain ⟨e, hserve⟩ := Cdc.setLineCoding_of_not_acceptable hdata
  refine ⟨e, ?_⟩
  rw [heq, RequestTable.dispatch, Cdc.lookup_setLineCoding hcode, hserve, afterAnswer,
    Answer.state_map, hself]
  rfl

/-- Reading the line coding replies with the seven bytes of the coding that is set. -/
theorem CarriesLine.replies (h : d.CarriesLine s) {r : Request}
    (hconnected : d.link.transport.connected = true)
    (hreach : d.ReachesLine r Cdc.RequestCode.getLineCoding) :
    d.Replies r s.lineCoding.toBytes := by
  obtain ⟨⟨hkind, hactive⟩, hcode⟩ := hreach
  obtain ⟨put, -, heq⟩ := h.handleRequest_eq hkind hactive
  have htold : ((d.link.note .setupReceived).signal "cdc get line coding").transport =
      d.link.transport := rfl
  refine replies_of_outcome (s := s) htold hconnected ?_
  rw [heq, RequestTable.dispatch, Cdc.lookup_getLineCoding hcode]
  rfl

end Device

/-- The profiles of a serial line carry one. -/
theorem Cdc.carriesLine_of_build {v : Variant} {o : ProfileOptions} {g : Gadget}
    (h : build v o = .ok g) (link : Link) : (Device.ofGadget g link).CarriesLine {} := by
  obtain ⟨m, hm, hg⟩ := exists_of_bind_eq_ok h
  have hmade : (o.apply m).Made :=
    ((Model.Made.build hm).speed (o.speed.getD m.speed)).info (o.applyInfo m.info)
  have hrouted := hmade.routed
  cases hg
  cases hm
  exact ⟨rfl, hrouted, rfl, rfl⟩

namespace Device

/-- A serial line that took in the requests which came in.

* It holds the line coding of the last one that it accepted, and the last state of the control
  lines; the class requests reach it that come in while a configuration is active.
* It acknowledges a line coding that is acceptable, and rejects every other one.
* Asked for the line coding, it replies with the front of the data that it accepted last. -/
structure SerialLine (arrivals : List (Device × Request)) (d : Device) : Prop where
  holds : ∃ s, d.model.stateOf? Cdc.line = some (.function (.cdc s)) ∧
    s.lineCoding.toBytes = (lastWrite codingWrite? [0x00, 0xc2, 0x01, 0, 0, 0, 8] arrivals).take 7 ∧
    s.controlLines = lastWrite linesWrite? 0 arrivals
  reached : ∀ r, d.handlerFor? r = some Cdc.line ↔
    r.kind = .classSpecific ∧ d.model.active.isSome
  accepted : ∀ r, d.link.transport.connected = true →
    d.ReachesLine r Cdc.RequestCode.setLineCoding → Cdc.Acceptable r.data →
      d.Acknowledges r "cdc set line coding"
  rejected : ∀ r, d.ReachesLine r Cdc.RequestCode.setLineCoding → ¬ Cdc.Acceptable r.data →
    d.Rejects r
  readBack : ∀ r, d.link.transport.connected = true →
    d.ReachesLine r Cdc.RequestCode.getLineCoding →
      (d.handleRequest r).2 = none ∧
        (d.handleRequest r).1.link.transport.log = d.link.transport.log ++
          [.send 0 ((lastWrite codingWrite? [0x00, 0xc2, 0x01, 0, 0, 0, 8] arrivals).take
            (min 7 r.length.toNat))]

/-- **A line coding reads back as the last one that was accepted.**  Whatever happens to a device of
either profile, its serial line holds what the last acceptable line coding set, or the default if
there was none, and the last state of the control lines. -/
theorem serialLine_after {p : Profile} (hp : p = .cdcAcm ∨ p = .cdcDl) {o : ProfileOptions}
    {g : Gadget} (h : p.build o = .ok g) (link : Link) (actions : List Action) :
    let d := ofGadget g link
    SerialLine (d.arrivals actions) (d.after actions) := by
  intro d
  have hcarries : d.CarriesLine {} := by
    rcases hp with rfl | rfl
    · exact Cdc.carriesLine_of_build h link
    · exact Cdc.carriesLine_of_build h link
  obtain ⟨s, hs, hcoding, hlines⟩ := hcarries.after actions
  refine ⟨⟨s, hs.state, hcoding, hlines⟩, hs.handlerFor?_eq_some_iff, fun _ => hs.acknowledges,
    fun _ => hs.rejects, fun r hconnected hreach => ?_⟩
  have hreplies := hs.replies hconnected hreach
  rw [Replies, hcoding, List.take_take, Nat.min_comm] at hreplies
  exact hreplies

/-- The hypotheses of `Device.serialLine_after` are satisfiable: a modem accepts eight bytes, then
rejects a parity, is left and selected again, and replies with what it accepted. -/
theorem serialLine_after_modem :
    ∃ g, Profile.cdcAcm.build {} = .ok g ∧
      let d := ofGadget g {}
      let actions : List Action :=
        [.connect, .event (.setup [0, 9, 1, 0, 0, 0, 0, 0]),
          .event (.setup [0x21, 0x20, 0, 0, 0, 0, 8, 0, 0x80, 0x25, 0, 0, 2, 4, 7, 0xff]),
          .event (.setup [0x21, 0x20, 0, 0, 0, 0, 7, 0, 0x80, 0x25, 0, 0, 0, 5, 8]),
          .event (.setup [0, 9, 0, 0, 0, 0, 0, 0]),
          .event (.setup [0x21, 0x20, 0, 0, 0, 0, 7, 0, 0, 0, 0, 0, 0, 0, 5]),
          .event (.setup [0, 9, 1, 0, 0, 0, 0, 0])]
      let ask : Request :=
        { requestType := 0xa1, code := Cdc.RequestCode.getLineCoding, length := 5 }
      SerialLine (d.arrivals actions) (d.after actions) ∧
        ((d.after actions).handleRequest ask).1.link.transport.log =
          (d.after actions).link.transport.log ++ [.send 0 [0x80, 0x25, 0, 0, 2]] := by
  obtain ⟨g, hg⟩ : ∃ g, Profile.cdcAcm.build {} = .ok g := ⟨_, rfl⟩
  refine ⟨g, hg, ?_⟩
  intro d actions ask
  have h := serialLine_after (.inl rfl) hg {} actions
  cases hg
  have hlast : lastWrite codingWrite? [0x00, 0xc2, 0x01, 0, 0, 0, 8] (d.arrivals actions) =
      [0x80, 0x25, 0, 0, 2, 4, 7, 0xff] := by decide +kernel
  have hreach : (d.after actions).ReachesLine ask Cdc.RequestCode.getLineCoding := by
    decide +kernel
  have hreply := (h.readBack ask (by decide +kernel) hreach).2
  rw [hlast] at hreply
  exact ⟨h, hreply⟩

end Device

end UsbGadget
