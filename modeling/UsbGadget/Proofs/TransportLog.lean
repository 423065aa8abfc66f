/-
# The log of a transport holds what it accepted

A transport refuses calls for two reasons, the one before the other:

| call | while it is not connected | while it is connected |
| --- | --- | --- |
| connect, disconnect | accepted | accepted |
| send | not connected | no such endpoint, if the number is above 15 |
| stall, acknowledge | not connected | accepted |

A call either is refused and changes nothing or goes to the end of the log
(`Transport.perform_cases`).  So after any calls the transport is connected just if
the latest of the calls to connect and to disconnect was one to connect
(`Transport.connected_after`), which settles what the next call comes to
(`Transport.comesTo_perform`), and the log is those of the calls that were not refused
(`Transport.log_after`).  What is read off the log is then read off the calls and
what they came to (`Transport.logsAccepted_after`).
-/

import UsbGadget.Proofs.LastWrite
import UsbGadget.Transport

namespace UsbGadget

namespace Call

/-- A call that needs a connection. -/
def IsTraffic (c : Call) : Prop := c ≠ connect ∧ c ≠ disconnect

/-- The latest of the calls to connect and to disconnect is one to connect. -/
def LeaveConnected (calls : List Call) : Prop :=
  ∃ before later, calls = before ++ connect :: later ∧ disconnect ∉ later

/-- What a call says about the connection, if it says anything. -/
def connection? : Call → Option Bool
  | connect => some true
  | disconnect => some false
  | _ => none

/-- Only a call that connects leaves the transport connected. -/
theorem connection?_eq_true_iff {c : Call} : c.connection? = some true ↔ c = connect := by
  cases c <;> simp [connection?]

/-- Only a call that disconnects leaves it disconnected. -/
theorem connection?_eq_false_iff {c : Call} : c.connection? = some false ↔ c = disconnect := by
  cases c <;> simp [connection?]

/-- The transport is left connected just if the last call to say so connects. -/
theorem leaveConnected_iff {calls : List Call} :
    LeaveConnected calls ↔ lastWrite connection? false calls = true := by
  rw [lastWrite_eq_true_iff, LeaveConnected]
  simp only [connection?_eq_true_iff, ne_eq, connection?_eq_false_iff]
  constructor
  · rintro ⟨before, later, hcalls, hlater⟩
    exact ⟨before, connect, later, hcalls, rfl, fun c hc heq => hlater (heq ▸ hc)⟩
  · rintro ⟨before, c, later, hcalls, rfl, hlater⟩
    exact ⟨before, later, hcalls, fun hmem => hlater _ hmem rfl⟩

/-- What a call comes to if the given ones were made before it and none before them. -/
structure ComesTo (before : List Call) (c : Call) (refusal : Option TransportError) : Prop where
  /-- It fails for want of a connection just if it needs one and the latest call to connect or to
  disconnect was not one to connect; -/
  notConnected : refusal = some .notConnected ↔ c.IsTraffic ∧ ¬ LeaveConnected before
  /-- because of an endpoint just if there is a connection and it sends on a number above 15; -/
  noSuchEndpoint : ∀ ep, refusal = some (.noSuchEndpoint ep) ↔
    LeaveConnected before ∧ 15 < ep.toNat ∧ ∃ data, c = send ep data
  /-- and it succeeds in all other cases. -/
  succeeds : refusal = none ↔
    ¬ c.IsTraffic ∨ LeaveConnected before ∧ ∀ ep data, c = send ep data → ep.toNat ≤ 15

end Call

namespace Transport

variable {t : Transport} {c : Call}

/-! ### One call -/

/-- A call is refused for want of a connection just if it is traffic and there is none. -/
theorem refusal?_eq_notConnected_iff :
    t.refusal? c = some .notConnected ↔ c.IsTraffic ∧ t.connected = false := by
  cases c with
  | send number data =>
    rw [refusal?]
    cases t.connected <;> simp [Call.IsTraffic]
  | _ => cases h : t.connected <;> simp [refusal?, Call.IsTraffic, h]

/-- The endpoints that the transport does not have are those past 15. -/
theorem maxEndpoint_lt_iff {ep : UInt8} : maxEndpoint < ep ↔ 15 < ep.toNat :=
  UInt8.lt_iff_toNat_lt

/-- A call is refused for want of the endpoint just if it sends on one past 15 over a connection. -/
theorem refusal?_eq_noSuchEndpoint_iff {ep : UInt8} :
    t.refusal? c = some (.noSuchEndpoint ep) ↔
      t.connected = true ∧ 15 < ep.toNat ∧ ∃ data, c = .send ep data := by
  cases c with
  | send number data =>
    rw [refusal?]
    cases t.connected with
    | false => simp
    | true =>
      simp only [Bool.not_true, Bool.false_eq_true, if_false, maxEndpoint_lt_iff, true_and,
        Call.send.injEq]
      by_cases h : 15 < number.toNat
      · rw [if_pos h, Option.some.injEq, TransportError.noSuchEndpoint.injEq]
        constructor
        · rintro rfl
          exact ⟨h, data, rfl, rfl⟩
        · rintro ⟨-, _, heq, -⟩
          exact heq
      · rw [if_neg h]
        refine iff_of_false (by simp) ?_
        rintro ⟨hep, _, rfl, -⟩
        exact h hep
  | _ => cases h : t.connected <;> simp [refusal?, h]

/-- A call is accepted just if it is no traffic, or there is a connection and the endpoint it sends
on. -/
theorem refusal?_eq_none_iff :
    t.refusal? c = none ↔
      ¬ c.IsTraffic ∨ t.connected = true ∧ ∀ ep data, c = .send ep data → ep.toNat ≤ 15 := by
  cases c with
  | send number data =>
    rw [refusal?]
    cases t.connected with
    | false => simp [Call.IsTraffic]
    | true =>
      simp only [Bool.not_true, Bool.false_eq_true, if_false, maxEndpoint_lt_iff, true_and,
        Call.send.injEq, and_imp, Call.IsTraffic]
      by_cases h : 15 < number.toNat <;> simp [h]
      omega
  | _ => cases h : t.connected <;> simp [refusal?, Call.IsTraffic, h]

/-- A call is refused and changes nothing, or it goes to the end of the log. -/
theorem perform_cases (t : Transport) (c : Call) :
    (∃ e, t.perform c = (t, some e) ∧ t.refusal? c = some e) ∨
      t.perform c = (⟨t.connectedAfter c, t.log ++ [c]⟩, none) ∧ t.refusal? c = none := by
  unfold perform
  cases h : t.refusal? c with
  | none => exact .inr ⟨rfl, rfl⟩
  | some e => exact .inl ⟨e, rfl, rfl⟩

/-- What a call comes to is whether it is refused. -/
theorem snd_perform (t : Transport) (c : Call) : (t.perform c).2 = t.refusal? c := by
  rcases t.perform_cases c with ⟨e, hperform, h⟩ | ⟨hperform, h⟩
  · rw [hperform, h]
  · rw [hperform, h]

/-- A call that does not say whether there is a connection leaves that as it was. -/
theorem connected_attempt (t : Transport) (c : Call) :
    (t.attempt c).connected = c.connection?.getD t.connected := by
  rw [attempt]
  rcases t.perform_cases c with ⟨e, hperform, h⟩ | ⟨hperform, -⟩
  · -- Calls to connect and to disconnect are never refused.
    rw [hperform]
    cases c with
    | connect | disconnect => cases h
    | _ => rfl
  · rw [hperform]
    cases c <;> rfl

/-! ### Many calls, one after the other -/

/-- The transport after calls, whether they were refused or not. -/
def after (t : Transport) (calls : List Call) : Transport := calls.foldl attempt t

/-- What comes of calls: each with the reason for which it is refused, if it is. -/
def outcomes (t : Transport) : List Call → List (Call × Option TransportError)
  | [] => []
  | c :: calls => (c, (t.perform c).2) :: (t.attempt c).outcomes calls

/-- The calls that were not refused. -/
def accepted (told : List (Call × Option TransportError)) : List Call :=
  (told.filter (·.2.isNone)).map (·.1)

/-- Calls that follow others come to what they come to on the transport that those leave. -/
theorem outcomes_append (t : Transport) (calls more : List Call) :
    t.outcomes (calls ++ more) = t.outcomes calls ++ (t.after calls).outcomes more := by
  induction calls generalizing t with
  | nil => rfl
  | cons c calls ih => exact congrArg (List.cons _) (ih (t.attempt c))

/-- The outcomes are those of the calls, one for each and in order. -/
theorem map_fst_outcomes (t : Transport) (calls : List Call) :
    (t.outcomes calls).map (·.1) = calls := by
  induction calls generalizing t with
  | nil => rfl
  | cons c calls ih => exact congrArg (List.cons c) (ih (t.attempt c))

/-- Whether there is a connection is what the last call said that connects or disconnects. -/
theorem connected_after (t : Transport) (calls : List Call) :
    (t.after calls).connected = lastWrite Call.connection? t.connected calls := by
  induction calls generalizing t with
  | nil => rfl
  | cons c calls ih =>
    rw [lastWrite_cons, ← connected_attempt]
    exact ih (t.attempt c)

/-- The log grows by the calls that are accepted, in order. -/
theorem log_after (t : Transport) (calls : List Call) :
    (t.after calls).log = t.log ++ accepted (t.outcomes calls) := by
  induction calls generalizing t with
  | nil => exact (List.append_nil _).symm
  | cons c calls ih =>
    refine (ih (t.attempt c)).trans ?_
    rw [outcomes, attempt]
    rcases t.perform_cases c with ⟨e, hperform, -⟩ | ⟨hperform, -⟩
    · rw [hperform]
      rfl
    · rw [hperform, List.append_assoc]
      rfl

/-- After any calls, the next one comes to what the rule says, errors by their precedence. -/
theorem comesTo_perform (before : List Call) (c : Call) :
    Call.ComesTo before c ((after {} before).perform c).2 := by
  have hconnected : (after {} before).connected = true ↔ Call.LeaveConnected before := by
    rw [connected_after, Call.leaveConnected_iff]
  rw [snd_perform]
  constructor
  case notConnected => rw [refusal?_eq_notConnected_iff, ← Bool.not_eq_true, hconnected]
  case noSuchEndpoint =>
    intro ep
    rw [refusal?_eq_noSuchEndpoint_iff, hconnected]
  case succeeds => rw [refusal?_eq_none_iff, hconnected]

/-! ### What is read off the log -/

/-- A call is in the log as often as it was made and accepted. -/
theorem count_accepted (told : List (Call × Option TransportError)) (c : Call) :
    (accepted told).count c = told.count (c, none) := by
  induction told with
  | nil => rfl
  | cons p told ih =>
    obtain ⟨d, refusal⟩ := p
    cases refusal <;> simp_all [accepted, List.count_cons]

/-- The data that a call has sent on an endpoint, if it was such a call and was not refused. -/
def sent? (ep : UInt8) : Call × Option TransportError → Option Bytes
  | (.send number data, none) => if number = ep then some data else none
  | _ => none

/-- What was sent on an endpoint are the data of accepted sends on it. -/
theorem sent?_eq_some_iff {ep : UInt8} {p : Call × Option TransportError} {data : Bytes} :
    sent? ep p = some data ↔ p = (.send ep data, none) := by
  obtain ⟨c, refusal⟩ := p
  cases refusal with
  | some e => simp [sent?]
  | none => cases c <;> simp [sent?]

/-- The data sent on an endpoint are read off the log as they are off the outcomes. -/
theorem filterMap_accepted (told : List (Call × Option TransportError)) (ep : UInt8) :
    (accepted told).filterMap (dataOn? ep) = told.filterMap (sent? ep) := by
  rw [accepted, List.filterMap_map, List.filterMap_filter]
  refine congrArg (List.filterMap · told) (funext fun ⟨c, refusal⟩ => ?_)
  cases c <;> cases refusal <;> rfl

/-- What calls on a new transport and what they came to have to do with the transport after them. -/
structure LogsAccepted (calls : List Call) (told : List (Call × Option TransportError))
    (t : Transport) : Prop where
  /-- Each call is told, -/
  about : told.map (·.1) = calls
  /-- with what it came to after those before it. -/
  outcome : ∀ before c later, calls = before ++ c :: later →
    ∃ refusal, told[before.length]? = some (c, refusal) ∧ Call.ComesTo before c refusal
  /-- One more call comes to what these make of it. -/
  next : ∀ c, Call.ComesTo calls c (t.perform c).2
  /-- A call that fails leaves everything as it was. -/
  unchanged : ∀ c, (t.perform c).2 ≠ none → (t.perform c).1 = t
  /-- The log is the calls that succeeded, in order. -/
  log : t.log = (told.filter (·.2.isNone)).map (·.1)
  stallCount : t.stallCount = told.count (.stall, none)
  sentOn : ∀ ep, t.sentOn ep = told.filterMap (sent? ep)
  /-- The last reply is the data of the last call that sent on the control endpoint. -/
  lastReply : ∀ data, t.lastReply? = some data ↔
    ∃ earlier later, told = earlier ++ (.send 0 data, none) :: later ∧
      ∀ other, (.send 0 other, none) ∉ later
  noReply : t.lastReply? = none ↔ ∀ data, (.send 0 data, none) ∉ told

/-- The last reply is the data of the last accepted send on the control endpoint. -/
theorem lastReply?_eq_some_iff {told : List (Call × Option TransportError)}
    (h : t.log = accepted told) {data : Bytes} :
    t.lastReply? = some data ↔
      ∃ earlier later, told = earlier ++ (.send 0 data, none) :: later ∧
        ∀ other, (.send 0 other, none) ∉ later := by
  rw [lastReply?, Transport.sentOn, h, filterMap_accepted, List.getLast?_filterMap,
    findSome?_reverse_eq_some_iff]
  simp only [sent?_eq_some_iff, Option.eq_none_iff_forall_ne_some, ne_eq]
  constructor
  · rintro ⟨earlier, p, later, htold, rfl, hlater⟩
    exact ⟨earlier, later, htold, fun other hmem => hlater _ hmem other rfl⟩
  · rintro ⟨earlier, later, htold, hlater⟩
    refine ⟨earlier, _, later, htold, rfl, ?_⟩
    rintro p hp other rfl
    exact hlater other hp

/-- There is no last reply just if no send on the control endpoint was accepted. -/
theorem lastReply?_eq_none_iff {told : List (Call × Option TransportError)}
    (h : t.log = accepted told) :
    t.lastReply? = none ↔ ∀ data, (.send 0 data, none) ∉ told := by
  rw [lastReply?, Transport.sentOn, h, filterMap_accepted, List.getLast?_eq_none_iff,
    List.filterMap_eq_nil_iff]
  simp only [Option.eq_none_iff_forall_ne_some, ne_eq, sent?_eq_some_iff]
  constructor
  · intro hnone data hmem
    exact hnone _ hmem data rfl
  · rintro hnone p hp data rfl
    exact hnone data hp

/-- **The log of a transport holds what it accepted.**  Whatever calls are made on a new transport:
traffic is refused while it is not connected, and after that a send on an endpoint above 15, and
nothing else is; a call that is refused changes nothing; the log is the others, in order and with
their data; and the number of stalls, the data sent on an endpoint and the last reply are those of
the calls that succeeded. -/
theorem logsAccepted_after (calls : List Call) :
    LogsAccepted calls (outcomes {} calls) (after {} calls) := by
  have hlog : (after {} calls).log = accepted (outcomes {} calls) := log_after {} calls
  constructor
  case about => exact map_fst_outcomes {} calls
  case outcome =>
    rintro before c later rfl
    have hlength : (outcomes {} before).length = before.length := by
      rw [← List.length_map (·.1), map_fst_outcomes]
    refine ⟨_, ?_, comesTo_perform before c⟩
    rw [outcomes_append, List.getElem?_append_right (Nat.le_of_eq hlength), hlength, Nat.sub_self]
    rfl
  case next => exact fun c => comesTo_perform calls c
  case unchanged =>
    intro c hfails
    rcases (after {} calls).perform_cases c with ⟨e, h, -⟩ | ⟨h, -⟩
    · rw [h]
    · rw [h] at hfails
      exact absurd rfl hfails
  case log => exact hlog
  case stallCount => rw [Transport.stallCount, hlog, count_accepted]
  case sentOn =>
    intro ep
    rw [Transport.sentOn, hlog, filterMap_accepted]
  case lastReply => exact fun data => lastReply?_eq_some_iff hlog
  case noReply => exact lastReply?_eq_none_iff hlog

/-- Without a connection nothing else is looked at. -/
example :
    outcomes {} [.send 16 [], .connect, .send 16 [], .send 15 [], .disconnect, .stall] =
      [(.send 16 [], some .notConnected), (.connect, none),
        (.send 16 [], some (.noSuchEndpoint 16)), (.send 15 [], none), (.disconnect, none),
        (.stall, some .notConnected)] := by
  decide

end Transport
end UsbGadget
