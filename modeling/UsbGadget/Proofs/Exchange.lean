/-
# What is said over a link

Serving makes calls to the transport and tells the application things; an
`Exchange` is what was said, and `Link.after` the link afterwards.  It serves if
it holds nothing but what handlers can say: no connecting and disconnecting, and
neither that a SETUP packet came in nor that the application was polled.

Two handlers, or one over two links, are in step (`Answer.InStep`) if their
states stay related, they fail alike and they say alike things: the same
callbacks up to the canonical bytes of a query, and the same calls up to what
endpoint 0 sends, and that only where it is `free` to differ.

The handlers of every table are in step with themselves
(`inStep_lookup` of each): what an application answers has no part in what they
do, except in the bytes that the request for a descriptor is answered with.  The
state of a device may moreover be that of a device of another identity
(`Model.relabel`), which shows nowhere else.
-/

import UsbGadget.Proofs.Failure

namespace UsbGadget

/-- What is said over a link: the calls to the transport, and what the application is told. -/
structure Exchange where
  calls : List Call := []
  told : List Callback := []

/-- A handler can make the call. -/
def Call.Serves : Call → Prop
  | send _ _ | stall | acknowledge => True
  | connect | disconnect => False

/-- A handler can tell the application this. -/
def Callback.Serves : Callback → Prop
  | supported _ | queried _ _ => True
  | setupReceived | polled => False

/-- The calls are the same, or both are replies on endpoint 0, which are free to differ. -/
inductive Call.Alike (free : Prop) : Call → Call → Prop
  | refl (c : Call) : Alike free c c
  | reply (h : free) (data data' : Bytes) : Alike free (.send 0 data) (.send 0 data')

/-- The callbacks are the same, or both are queries of the same stage. -/
inductive Callback.Alike : Callback → Callback → Prop
  | refl (c : Callback) : Alike c c
  | queried (stage : Stage) (canonical canonical' : Bytes) :
      Alike (.queried stage canonical) (.queried stage canonical')

/-- Calls are like themselves, one by one. -/
theorem Call.forall₂_alike_refl (free : Prop) (calls : List Call) :
    List.Forall₂ (Alike free) calls calls := List.forall₂_same.2 fun c _ => .refl c

/-- Callbacks are like themselves, one by one. -/
theorem Callback.forall₂_alike_refl (history : List Callback) :
    List.Forall₂ Alike history history := List.forall₂_same.2 fun c _ => .refl c

namespace Exchange

/-- One exchange and then another. -/
def append (x y : Exchange) : Exchange := ⟨x.calls ++ y.calls, x.told ++ y.told⟩

instance : Append Exchange := ⟨append⟩

@[simp] theorem calls_append (x y : Exchange) : (x ++ y).calls = x.calls ++ y.calls := rfl

@[simp] theorem told_append (x y : Exchange) : (x ++ y).told = x.told ++ y.told := rfl

/-- The exchange holds nothing but what handlers can say. -/
structure Serves (x : Exchange) : Prop where
  calls : ∀ c ∈ x.calls, c.Serves
  told : ∀ c ∈ x.told, c.Serves

/-- The exchanges hold alike calls and alike callbacks, in the same order. -/
structure Alike (free : Prop) (x x' : Exchange) : Prop where
  calls : List.Forall₂ (Call.Alike free) x.calls x'.calls
  told : List.Forall₂ Callback.Alike x.told x'.told

/-- Saying nothing is something that a handler can do. -/
theorem serves_nothing : Serves {} := ⟨List.forall_mem_nil _, List.forall_mem_nil _⟩

/-- Handlers can say one thing and then another. -/
theorem Serves.append {x y : Exchange} (hx : x.Serves) (hy : y.Serves) : (x ++ y).Serves :=
  ⟨List.forall_mem_append.2 ⟨hx.calls, hy.calls⟩, List.forall_mem_append.2 ⟨hx.told, hy.told⟩⟩

variable {free free' : Prop} {x x' y y' : Exchange}

/-- Every exchange is like itself. -/
theorem alike_refl (free : Prop) (x : Exchange) : x.Alike free x :=
  ⟨Call.forall₂_alike_refl free x.calls, Callback.forall₂_alike_refl x.told⟩

/-- Exchanges stay alike when more is said that is alike. -/
theorem Alike.append (hx : x.Alike free x') (hy : y.Alike free y') :
    (x ++ y).Alike free (x' ++ y') :=
  ⟨List.rel_append hx.calls hy.calls, List.rel_append hx.told hy.told⟩

/-- Exchanges that are alike with less freedom are alike with more. -/
theorem Alike.mono (h : x.Alike free x') (hfree : free → free') : x.Alike free' x' where
  calls := by
    refine h.calls.imp fun c c' hc => ?_
    cases hc with
    | refl => exact .refl c
    | reply hf data data' => exact .reply (hfree hf) data data'
  told := h.told

end Exchange

namespace Link

/-- The link after an exchange. -/
def after (link : Link) (x : Exchange) : Link where
  transport := { link.transport with log := link.transport.log ++ x.calls }
  app := link.app
  history := link.history ++ x.told

@[simp] theorem after_nothing (link : Link) : link.after {} = link := by
  simp only [after, List.append_nil]

@[simp] theorem after_append (link : Link) (x y : Exchange) :
    link.after (x ++ y) = (link.after x).after y := by
  simp only [after, Exchange.calls_append, Exchange.told_append, List.append_assoc]

/-- A callback is an exchange of its own. -/
theorem note_eq_after (link : Link) (c : Callback) : link.note c = link.after ⟨[], [c]⟩ := by
  simp only [note, after, List.append_nil]

/-- Between the links only such things were said as handlers can say. -/
def Serves (link last : Link) : Prop := ∃ x : Exchange, x.Serves ∧ last = link.after x

/-- Between the first two links and between the other two alike things were said, of the kind that
handlers can say. -/
def InStep (free : Prop) (link last link' last' : Link) : Prop :=
  ∃ x x' : Exchange, x.Serves ∧ x.Alike free x' ∧ last = link.after x ∧ last' = link'.after x'

variable {free free' : Prop} {link last link' last' : Link}

/-- A link that goes along with another one has said only what a handler can say. -/
theorem InStep.serves (h : InStep free link last link' last') : link.Serves last := by
  obtain ⟨x, -, hx, -, hlast, -⟩ := h
  exact ⟨x, hx, hlast⟩

/-- Links that are in step with less freedom are in step with more. -/
theorem InStep.mono (h : InStep free link last link' last') (hfree : free → free') :
    InStep free' link last link' last' := by
  obtain ⟨x, x', hx, halike, hlast, hlast'⟩ := h
  exact ⟨x, x', hx, halike.mono hfree, hlast, hlast'⟩

/-- Links in step that go on in step are in step from the start. -/
theorem InStep.trans {final final' : Link} (h : InStep free link last link' last')
    (hs : InStep free last final last' final') : InStep free link final link' final' := by
  obtain ⟨x, x', hx, hxx', rfl, rfl⟩ := h
  obtain ⟨y, y', hy, hyy', rfl, rfl⟩ := hs
  exact ⟨x ++ y, x' ++ y', hx.append hy, hxx'.append hyy', (link.after_append x y).symm,
    (link'.after_append x' y').symm⟩

/-- Links in step stay connected alike. -/
theorem InStep.connected (h : InStep free link last link' last')
    (hconnected : link'.transport.connected = link.transport.connected) :
    last'.transport.connected = last.transport.connected := by
  obtain ⟨x, x', -, -, rfl, rfl⟩ := h
  exact hconnected

/-- Links that say nothing are in step. -/
theorem inStep_refl (free : Prop) (link link' : Link) : InStep free link link link' link' :=
  ⟨{}, {}, Exchange.serves_nothing, Exchange.alike_refl free {}, link.after_nothing.symm,
    link'.after_nothing.symm⟩

/-- Two links that signal the same are in step. -/
theorem inStep_signal (free : Prop) (link link' : Link) (reason : String) :
    InStep free link (link.signal reason) link' (link'.signal reason) :=
  ⟨⟨[], [.supported reason]⟩, ⟨[], [.supported reason]⟩,
    ⟨List.forall_mem_nil _, List.forall_mem_singleton.2 trivial⟩, Exchange.alike_refl _ _,
    link.note_eq_after _, link'.note_eq_after _⟩

/-- Queries of the same stages are told alike, whatever their bytes. -/
theorem alike_callbacks {qs qs' : List Query} (h : qs'.map (·.stage) = qs.map (·.stage)) :
    List.Forall₂ Callback.Alike (qs.map Query.callback) (qs'.map Query.callback) := by
  induction qs generalizing qs' with
  | nil =>
    rw [List.map_eq_nil_iff.1 h]
    exact .nil
  | cons q qs ih =>
    obtain ⟨q', qs', rfl, hq, hqs⟩ := List.map_eq_cons_iff.1 h
    refine .cons ?_ (ih hqs)
    rw [Query.callback, Query.callback, hq]
    exact .queried ..

/-- What is asked while a descriptor is built depends on its plan alone, up to the canonical
bytes. -/
theorem inStep_emit (free : Prop) (link link' : Link) {l l' : Layout}
    (hstages : l'.stages = l.stages) :
    InStep free link (link.emit l).2 link' (link'.emit l').2 := by
  obtain ⟨qs, bytes, ⟨hemit, -⟩, hqs, -⟩ := Layout.exists_builds link.app l link.history
  obtain ⟨qs', bytes', ⟨hemit', -⟩, hqs', -⟩ := Layout.exists_builds link'.app l' link'.history
  rw [Layout.emitAll_singleton] at hemit hemit'
  refine ⟨⟨[], qs.map Query.callback⟩, ⟨[], qs'.map Query.callback⟩, ⟨List.forall_mem_nil _, ?_⟩,
    ⟨.nil, alike_callbacks ?_⟩, ?_, ?_⟩
  · simp only [List.forall_mem_map]
    exact fun _ _ => trivial
  · rw [hqs', hqs, hstages]
  · simp only [emit, hemit, after, askedAfter, List.append_nil]
  · simp only [emit, hemit', after, askedAfter, List.append_nil]

end Link

/-- A call that a handler can make leaves the connection as it is. -/
theorem Call.Serves.record_eq {c : Call} (h : c.Serves) (t : Transport) :
    t.record c = { t with log := t.log ++ [c] } := by
  cases c with
  | connect => exact h.elim
  | disconnect => exact h.elim
  | _ => rfl

/-- Whether a call is refused depends on its kind and its endpoint alone. -/
theorem Call.Alike.refusal?_eq {free : Prop} {c c' : Call} (h : c.Alike free c') {t t' : Transport}
    (ht : t'.connected = t.connected) : t'.refusal? c' = t.refusal? c := by
  cases h with
  | refl => cases c <;> simp only [Transport.refusal?, ht]
  | reply => simp only [Transport.refusal?, ht]

/-- The answers over the two links are in step: the second state is what `f` makes of the first, the
failures are the same, and alike things were said. -/
structure Answer.InStep {σ τ : Type} (f : σ → τ) (free : Prop) (link link' : Link) (a : Answer σ)
    (a' : Answer τ) : Prop where
  state : a'.state = f a.state
  failure : a'.failure = a.failure
  said : Link.InStep free link a.link link' a'.link

namespace Answer.InStep

variable {σ τ σ' τ' : Type} {f : σ → τ} {free free' : Prop} {link link' mid mid' : Link}
  {a : Answer σ} {a' : Answer τ}

/-- Answers that are in step with less freedom are in step with more. -/
theorem mono (h : InStep f free link link' a a') (hfree : free → free') :
    InStep f free' link link' a a' := ⟨h.state, h.failure, h.said.mono hfree⟩

/-- Alike things may have been said before. -/
theorem of_said (h : InStep f free mid mid' a a') (hsaid : Link.InStep free link mid link' mid') :
    InStep f free link link' a a' := ⟨h.state, h.failure, hsaid.trans h.said⟩

/-- Answers stay in step when they are put back into states that correspond. -/
theorem map {f' : σ' → τ'} (h : InStep f free link link' a a') (g : σ → σ') (g' : τ → τ')
    (hg : ∀ s, g' (f s) = f' (g s)) : InStep f' free link link' (a.map g) (a'.map g') where
  state := (congrArg g' h.state).trans (hg a.state)
  failure := h.failure
  said := h.said

section

variable (f) (hconnected : link'.transport.connected = link.transport.connected)
include hconnected

/-- Alike calls over links of which both are connected or neither is. -/
theorem call {c c' : Call} (hc : c.Alike free c') (hserves : c.Serves) (s : σ) :
    InStep f free link link' (link.call c s) (link'.call c' (f s)) := by
  have hrefusal := hc.refusal?_eq hconnected
  have hserves' : c'.Serves := by
    cases hc with
    | refl => exact hserves
    | reply => exact trivial
  cases h : link.transport.refusal? c with
  | some cause =>
    rw [Link.call_of_refusal?_eq_some h, Link.call_of_refusal?_eq_some (hrefusal.trans h)]
    exact ⟨rfl, rfl, Link.inStep_refl free link link'⟩
  | none =>
    rw [Link.call_of_refusal?_eq_none h, Link.call_of_refusal?_eq_none (hrefusal.trans h),
      hserves.record_eq, hserves'.record_eq]
    refine ⟨rfl, rfl, ⟨[c], []⟩, ⟨[c'], []⟩, ?_, ⟨.cons hc .nil, .nil⟩, ?_, ?_⟩
    · exact ⟨List.forall_mem_singleton.2 hserves, List.forall_mem_nil _⟩
    · simp only [Link.after, List.append_nil]
    · simp only [Link.after, List.append_nil]

/-- Two links that send the same are in step. -/
theorem send (ep : UInt8) (data : Bytes) (s : σ) :
    InStep f free link link' (link.send ep data s) (link'.send ep data (f s)) :=
  call f hconnected (.refl (.send ep data)) trivial s

/-- Two links that reply the same are in step. -/
theorem reply (r : Request) (data : Bytes) (s : σ) :
    InStep f free link link' (link.reply r data s) (link'.reply r data (f s)) :=
  send f hconnected 0 _ s

/-- Two links that reply with no data are in step. -/
theorem replyEmpty (s : σ) :
    InStep f free link link' (link.replyEmpty s) (link'.replyEmpty (f s)) :=
  send f hconnected 0 [] s

/-- Two links that stall are in step. -/
theorem stall (s : σ) : InStep f free link link' (link.stall s) (link'.stall (f s)) :=
  call f hconnected (.refl .stall) trivial s

/-- Two links that acknowledge are in step. -/
theorem acknowledge (s : σ) :
    InStep f free link link' (link.acknowledge s) (link'.acknowledge (f s)) :=
  call f hconnected (.refl .acknowledge) trivial s

/-- Replies that are free to differ. -/
theorem reply_free (hfree : free) (r : Request) (data data' : Bytes) (s : σ) :
    InStep f free link link' (link.reply r data s) (link'.reply r data' (f s)) :=
  call f hconnected (.reply hfree _ _) trivial s

end

end Answer.InStep

/-! ### Handlers -/

/-- The handler is in step with itself over links of which both are connected or neither is, for
states that are related by `f`. -/
def Handler.InStep {σ : Type} (f : σ → σ) (free : Prop) (h : Handler σ) : Prop :=
  ∀ (speed : Speed) (r : Request) (link link' : Link) (s : σ),
    link'.transport.connected = link.transport.connected →
      Answer.InStep f free link link' (h speed r link s) (h speed r link' (f s))

namespace Handler

variable {σ : Type} {f : σ → σ} {free free' : Prop}

/-- Handlers that are in step with less freedom are in step with more. -/
theorem InStep.mono {h : Handler σ} (hh : h.InStep f free) (hfree : free → free') :
    h.InStep f free' :=
  fun speed r link link' s hconnected => (hh speed r link link' s hconnected).mono hfree

/-- A handler stays in step when a signal goes before it. -/
theorem InStep.signal {h : Handler σ} (hh : h.InStep f free) (reason : String) :
    InStep f free fun speed r link s => h speed r (link.signal reason) s :=
  fun speed r link link' s hconnected =>
    (hh speed r (link.signal reason) (link'.signal reason) s hconnected).of_said
      (Link.inStep_signal free link link' reason)

/-- Refusing every request is in step, whatever the states. -/
theorem inStep_stall : (stall (σ := σ)).InStep f free := fun _ _ _ _ s h => .stall f h s

/-- Replying is in step if states that correspond reply the same. -/
theorem inStep_reply {data : Request → σ → Bytes} (hdata : ∀ r s, data r (f s) = data r s) :
    InStep f free fun _ r link s => link.reply r (data r s) s := by
  intro speed r link link' s hconnected
  simp only [hdata]
  exact .reply f hconnected r (data r s) s

/-- Replying with no data is in step if the states correspond afterwards. -/
theorem inStep_replyEmpty {g : Request → σ → σ} (hg : ∀ r s, g r (f s) = f (g r s)) :
    InStep f free fun _ r link s => link.replyEmpty (g r s) := by
  intro speed r link link' s hconnected
  simp only [hg]
  exact .replyEmpty f hconnected (g r s)

/-- Acknowledging is in step if the states correspond afterwards. -/
theorem inStep_acknowledge {g : Request → σ → σ} (hg : ∀ r s, g r (f s) = f (g r s)) :
    InStep f free fun _ r link s => link.acknowledge (g r s) := by
  intro speed r link link' s hconnected
  simp only [hg]
  exact .acknowledge f hconnected (g r s)

/-- Replying with no data and signalling is in step, whatever the states. -/
theorem inStep_serviced : (serviced (σ := σ)).InStep f free := by
  intro speed r link link' s hconnected
  have h : Answer.InStep f free link link' _ _ := .replyEmpty f hconnected s
  have hfailure := h.failure
  unfold serviced
  dsimp only
  cases hf : (link.replyEmpty s).failure with
  | none =>
    simp only [hfailure.trans hf]
    exact ⟨h.state, rfl, h.said.trans (Link.inStep_signal ..)⟩
  | some e =>
    simp only [hfailure.trans hf]
    exact h

end Handler

/-- A table whose handlers are in step, where only the handler of the request for a descriptor is
free to reply with other bytes. -/
theorem RequestTable.inStep_lookup_ofList {σ : Type} {f : σ → σ} {default : Handler σ}
    {entries : List (UInt8 × Handler σ)} (hdefault : default.InStep f False)
    (hentries : ∀ e ∈ entries, e.2.InStep f (e.1 = RequestCode.getDescriptor)) (code : UInt8) :
    (lookup ⟨.ofList entries, default⟩ code).InStep f (code = RequestCode.getDescriptor) :=
  lookup_of_forall (hdefault.mono False.elim)
    fun e he hcode => hcode ▸ hentries e (Table.mem_ofList he)

/-- The standard requests to an interface are in step. -/
theorem Interface.State.inStep_lookup (code : UInt8) :
    (Interface.State.requests.lookup code).InStep id False := by
  have hdescriptor : getDescriptor.InStep id False := by
    intro speed r link link' s hconnected
    unfold getDescriptor
    dsimp only [id_eq]
    cases s.descriptors.find? r.descriptorType with
    | none => exact .stall id hconnected s
    | some bytes => exact .reply id hconnected r bytes s
  have hempty : Handler.replyEmpty.InStep id False :=
    Handler.inStep_replyEmpty (g := fun _ (s : Interface.State) => s) fun _ _ => rfl
  refine RequestTable.lookup_ofList hempty ?_ code
  simp only [List.forall_mem_cons]
  exact ⟨Handler.inStep_reply fun _ _ => rfl, hdescriptor, Handler.inStep_reply fun _ _ => rfl,
    hempty, List.forall_mem_nil _⟩

/-- The standard requests to an endpoint are in step. -/
theorem Endpoint.Status.inStep_lookup (code : UInt8) :
    (Endpoint.Status.requests.lookup code).InStep id False := by
  refine RequestTable.lookup_ofList
    (Handler.inStep_replyEmpty (g := fun _ s => s) fun _ _ => rfl) ?_ code
  simp only [List.forall_mem_cons]
  exact ⟨Handler.inStep_reply fun _ _ => rfl, Handler.inStep_replyEmpty fun _ _ => rfl,
    Handler.inStep_replyEmpty fun _ _ => rfl, List.forall_mem_nil _⟩

/-- The class requests of a serial line are in step. -/
theorem Cdc.inStep_lookup (code : UInt8) : (Cdc.requests.lookup code).InStep id False := by
  have hcoding : Cdc.setLineCoding.InStep id False := by
    intro speed r link link' s hconnected
    have hsignal := Link.inStep_signal False link link' "cdc set line coding"
    unfold Cdc.setLineCoding
    cases LineCoding.ofBytes? r.data with
    | none => exact ⟨rfl, rfl, Link.inStep_refl ..⟩
    | some coding =>
      dsimp only
      split
      · exact (Answer.InStep.acknowledge id (hsignal.connected hconnected) _).of_said hsignal
      · exact ⟨rfl, rfl, Link.inStep_refl ..⟩
  have hget : Handler.InStep id False fun _ r link (s : State) =>
      link.reply r s.lineCoding.toBytes s := Handler.inStep_reply fun _ _ => rfl
  have hlines : Handler.InStep id False fun _ r link (s : State) =>
      link.acknowledge { s with controlLines := r.value } :=
    Handler.inStep_acknowledge fun _ _ => rfl
  have hbreak : Handler.InStep id False fun _ _ link (s : State) => link.acknowledge s :=
    Handler.inStep_acknowledge fun _ _ => rfl
  refine RequestTable.lookup_ofList Handler.inStep_serviced ?_ code
  simp only [List.forall_mem_cons]
  exact ⟨hcoding, hget.signal _, hlines.signal _, hbreak.signal _, List.forall_mem_nil _⟩

/-- The class requests of a hub are in step, but for the bytes of its descriptor. -/
theorem Hub.inStep_lookup (code : UInt8) :
    (Hub.requests.lookup code).InStep id (code = RequestCode.getDescriptor) := by
  have hstatus : Hub.getStatus.InStep id False := by
    intro speed r link link' s hconnected
    unfold Hub.getStatus
    split
    · cases portAt? r.index with
      | none => exact .stall id hconnected s
      | some i => exact .reply id hconnected r _ s
    · exact .reply id hconnected r _ s
  have hdescriptor : Hub.getDescriptor.InStep id True := by
    intro speed r link link' s hconnected
    have hsaid := (Link.inStep_emit True link link' (l := descriptorLayout) rfl).trans
      (Link.inStep_signal _ _ _ "hub descriptor requested")
    exact (Answer.InStep.reply_free id (hsaid.connected hconnected) trivial r _ _ s).of_said hsaid
  have hfeature : ∀ on, (Hub.changeFeature on).InStep id False := by
    intro on speed r link link' s hconnected
    unfold Hub.changeFeature
    split
    · cases portAt? r.index with
      | none => exact .stall id hconnected s
      | some i => exact .acknowledge id hconnected _
    · exact .acknowledge id hconnected s
  refine RequestTable.inStep_lookup_ofList Handler.inStep_serviced ?_ code
  simp only [List.forall_mem_cons]
  exact ⟨hstatus.mono False.elim, hdescriptor, (hfeature true).mono False.elim,
    (hfeature false).mono False.elim, List.forall_mem_nil _⟩

/-- The handler is that of a hub. -/
def FunctionHandler.IsHub : FunctionHandler → Prop
  | hub _ => True
  | _ => False

/-- A stock handler serves in step, but for the bytes of a hub's descriptor. -/
theorem FunctionHandler.inStep_serve {h : FunctionHandler} (hstock : h.IsStock) (speed : Speed)
    (r : Request) {link link' : Link}
    (hconnected : link'.transport.connected = link.transport.connected) :
    Answer.InStep id (h.IsHub ∧ r.code = RequestCode.getDescriptor) link link'
      (h.serve speed r link) (h.serve speed r link') := by
  cases h with
  | cdc s =>
    have hserve := Cdc.inStep_lookup r.code speed r link link' s hconnected
    exact (hserve.mono False.elim).map cdc cdc fun _ => rfl
  | hub s =>
    have hserve := Hub.inStep_lookup r.code speed r link link' s hconnected
    exact (hserve.mono fun hcode => ⟨trivial, hcode⟩).map hub hub fun _ => rfl
  | custom h =>
    have hserve : Answer.InStep id ((custom h).IsHub ∧ r.code = RequestCode.getDescriptor) link
        link' (h.requests.dispatch speed r link h.state)
        (h.requests.dispatch speed r link' h.state) := by
      rw [show h.requests = { default := Handler.serviced } from hstock]
      exact Handler.inStep_serviced speed r link link' h.state hconnected
    exact hserve.map (fun s => custom { h with state := s }) (fun s => custom { h with state := s })
      fun _ => rfl

/-- The traffic is served by one of the built-in handlers. -/
def TrafficHandler.IsStock : TrafficHandler → Prop
  | custom _ => False
  | _ => True

/-- A built-in handler takes in data in step. -/
theorem TrafficHandler.inStep_receive {t : TrafficHandler} (hstock : t.IsStock) (speed : Speed)
    (data : Bytes) (link link' : Link) :
    Answer.InStep id False link link' (t.receive speed data link) (t.receive speed data link') := by
  cases t with
  | custom => exact hstock.elim
  | _ => exact ⟨rfl, rfl, Link.inStep_refl ..⟩

/-- A built-in handler makes use of room in step, over links that are connected alike. -/
theorem TrafficHandler.inStep_offer {t : TrafficHandler} (hstock : t.IsStock) (speed : Speed)
    {link link' : Link} (hconnected : link'.transport.connected = link.transport.connected) :
    Answer.InStep id False link link' (t.offer speed link) (t.offer speed link') := by
  cases t with
  | custom => exact hstock.elim
  | responder ep frame => exact .send id hconnected ep frame _
  | _ => exact ⟨rfl, rfl, Link.inStep_refl ..⟩

/-! ### The device's own table -/

/-- The model with another identity. -/
def Model.relabel (identity : DeviceInfo → DeviceInfo) (m : Model) : Model :=
  { m with info := identity m.info }

section

variable (identity : DeviceInfo → DeviceInfo)

/-- The identity decides what bytes a descriptor has, but not whether there is one and in what
stages it is built. -/
theorem Model.stages_layout?_relabel (m : Model) (type index : UInt8) :
    ((m.relabel identity).layout? type index).map (·.stages) =
      (m.layout? type index).map (·.stages) := by
  unfold layout?
  split_ifs <;> rfl

/-- A device with other identifiers selects the same configurations. -/
theorem Model.selectConfiguration?_relabel (m : Model) (value : UInt8) :
    (m.relabel identity).selectConfiguration? value =
      (m.selectConfiguration? value).map (relabel identity) := by
  have hposition : (m.relabel identity).selectedPosition? value = m.selectedPosition? value := rfl
  unfold selectConfiguration?
  split
  · rfl
  · rw [hposition]
    cases m.selectedPosition? value with
    | none => rfl
    | some position =>
      have hconfigurations : (m.relabel identity).configurations[position]? =
        m.configurations[position]? := rfl
      simp only [Option.bind_eq_bind, Option.bind_some, hconfigurations]
      cases m.configurations[position]? <;> rfl

/-- The request for a descriptor, where something may be said once the descriptor is built. -/
theorem Handler.inStep_layout? {g : Request → Link → Link}
    (hg : ∀ r link link', Link.InStep True link (g r link) link' (g r link')) :
    Handler.InStep (Model.relabel identity) True fun _ r link m =>
      match m.layout? r.descriptorType r.descriptorIndex with
      | none => link.stall m
      | some layout => (g r (link.emit layout).2).reply r (link.emit layout).1 m := by
  intro speed r link link' m hconnected
  have hstages := m.stages_layout?_relabel identity r.descriptorType r.descriptorIndex
  dsimp only
  cases h : m.layout? r.descriptorType r.descriptorIndex with
  | none =>
    rw [h, Option.map_none, Option.map_eq_none_iff] at hstages
    simp only [hstages]
    exact .stall _ hconnected m
  | some l =>
    rw [h, Option.map_some, Option.map_eq_some_iff] at hstages
    obtain ⟨l', hl', hstages⟩ := hstages
    simp only [hl']
    have hsaid := (Link.inStep_emit True link link' hstages).trans (hg r _ _)
    exact (Answer.InStep.reply_free _ (hsaid.connected hconnected) trivial r _ _ m).of_said hsaid

/-- A request for a descriptor is in step on devices that differ in their identifiers, but for the
bytes. -/
theorem StandardRequests.inStep_getDescriptor :
    getDescriptor.InStep (Model.relabel identity) True :=
  Handler.inStep_layout? identity (g := fun _ link => link) fun _ => Link.inStep_refl True

/-- So is a billboard's request for a descriptor. -/
theorem BillboardProfile.inStep_getDescriptor :
    BillboardProfile.getDescriptor.InStep (Model.relabel identity) True := by
  refine Handler.inStep_layout? identity (g := fun r link =>
    if r.descriptorType = DescriptorType.objectStore then link.signal "billboard BOS requested"
    else link) ?_
  intro r link link'
  split
  · exact Link.inStep_signal ..
  · exact Link.inStep_refl ..

/-- The standard requests to a device are in step, whatever its identity, but for the bytes of its
descriptors. -/
theorem StandardRequests.inStep_lookup (code : UInt8) :
    (requests.lookup code).InStep (Model.relabel identity) (code = RequestCode.getDescriptor) := by
  have hfeature : ∀ on, (changeFeature on).InStep (Model.relabel identity) False := by
    intro on
    refine Handler.inStep_acknowledge (g := fun r (m : Model) =>
      if r.value = Feature.deviceRemoteWakeup then { m with remoteWakeup := on } else m) ?_
    intro r m
    split <;> rfl
  have haddress : setAddress.InStep (Model.relabel identity) False :=
    Handler.inStep_acknowledge (g := fun r (m : Model) =>
      { m with address := (r.value &&& 0x7f).toUInt8 }) fun _ _ => rfl
  have hselect : setConfiguration.InStep (Model.relabel identity) False := by
    intro speed r link link' m hconnected
    unfold setConfiguration
    rw [Model.selectConfiguration?_relabel]
    cases m.selectConfiguration? r.value.toUInt8 with
    | none => exact .stall _ hconnected m
    | some m' => exact .acknowledge _ hconnected m'
  have hinterface : getInterface.InStep (Model.relabel identity) False := by
    intro speed r link link' m hconnected
    unfold getInterface
    rw [show (m.relabel identity).interface? r.index.toNat = m.interface? r.index.toNat from rfl]
    cases m.interface? r.index.toNat with
    | none => exact .stall _ hconnected m
    | some i => exact .reply _ hconnected r _ m
  have hempty : Handler.replyEmpty.InStep (Model.relabel identity) False :=
    Handler.inStep_replyEmpty (g := fun _ m => m) fun _ _ => rfl
  have hreply : ∀ data : Request → Model → Bytes, (∀ r m, data r (m.relabel identity) = data r m) →
      Handler.InStep (Model.relabel identity) False fun _ r link m => link.reply r (data r m) m :=
    fun _ => Handler.inStep_reply
  refine RequestTable.inStep_lookup_ofList hempty ?_ code
  simp only [List.forall_mem_cons]
  exact ⟨(hreply _ fun _ _ => rfl).mono False.elim, (hfeature false).mono False.elim,
    (hfeature true).mono False.elim, haddress.mono False.elim, inStep_getDescriptor identity,
    Handler.inStep_stall, (hreply _ fun _ _ => rfl).mono False.elim, hselect.mono False.elim,
    hinterface.mono False.elim, hempty.mono False.elim, Handler.inStep_stall,
    (hreply _ fun _ _ => rfl).mono False.elim, List.forall_mem_nil _⟩

end

end UsbGadget
