/-
# One answer per SETUP packet

A device that is connected answers every control request with one call to the
transport, whatever happened to it before (`Device.answersOnce_after`), as long
as it is of a stock gadget.  The request goes to the device's own table or to
one part of the tree, and each of these answers once; only a serial line may
reject a line coding instead (`Device.answered_or_rejects`).
-/

import UsbGadget.Proofs.Stock

namespace UsbGadget

namespace Device

/-- How a device answers a control request: the application is told once that a SETUP packet came
in, and then one call is made; or none is made, because the handler that the request goes to is
that of a serial line, and the request sets a line coding that it cannot take. -/
structure AnswersOnce (d : Device) (r : Request) : Prop where
  told : ∃ told, Callback.setupReceived ∉ told ∧
    (d.handleRequest r).1.link.history = d.link.history ++ .setupReceived :: told
  answered : (d.handleRequest r).2 = none → ∃ c : Call, c.Answers r ∧
    (d.handleRequest r).1.link.transport.log = d.link.transport.log ++ [c]
  rejected : ∀ e, (d.handleRequest r).2 = some e →
    (d.handleRequest r).1.link.transport.log = d.link.transport.log ∧ Cdc.Rejects r ∧
      ∃ kind s, r.target d.model.policy = .function kind ∧ d.model.handler? kind = some (.cdc s)

/-- Whatever a request goes to answers once, or it is a handler that rejects a line coding. -/
theorem answered_or_rejects {requests : RequestTable Model} {link : Link} {m : Model}
    (hrequests : ∀ code, (requests.lookup code).Answers) (hstock : m.Each Interface.Stock)
    (hconnected : link.transport.connected = true) (target : Target) (r : Request) :
    link.Answered r ((serve? requests target r link m).getD (link.stall m)).outcome ∨
      Cdc.Rejects r ∧
        (∃ kind s, target = .function kind ∧ m.handler? kind = some (.cdc s)) ∧
        ∃ e, ((serve? requests target r link m).getD (link.stall m)).outcome = (link, some e) := by
  have hstall := Link.answered_stall hconnected r m
  rw [outcome_serve?]
  cases target with
  | device => exact .inl (hrequests r.code m.speed r link m hconnected)
  | interface position =>
    left
    dsimp only
    cases hi : m.interface? position with
    | none => exact hstall
    | some i => exact (hstock.interface? hi).answered hconnected m.speed r
  | endpoint number =>
    left
    dsimp only
    cases hep : m.endpoint? number with
    | none => exact hstall
    | some ep =>
      obtain ⟨i, hi, hmem⟩ := hstock.endpoint? hep
      exact hi.endpoint_answered hmem hconnected m.speed r
  | function kind =>
    dsimp only
    cases hh : m.handler? kind with
    | none => exact .inl hstall
    | some h =>
      obtain ⟨i, hi, hcarries⟩ := hstock.handler? hh
      refine (FunctionHandler.answered_or_rejects (hi.handlers kind h hcarries) hconnected
        m.speed r).imp_right ?_
      rintro ⟨hcdc, hrejects, hfailed⟩
      cases h with
      | cdc s => exact ⟨hrejects, ⟨kind, s, rfl, hh⟩, hfailed⟩
      | hub s => cases hcdc
      | custom h => cases hcdc
  | nobody => exact .inl hstall

/-- A device whose tables and handlers are stock answers once. -/
theorem answersOnce {d : Device} (hrequests : ∀ code, (d.requests.lookup code).Answers)
    (hstock : d.model.Each Interface.Stock) (hconnected : d.link.transport.connected = true)
    (r : Request) : d.AnswersOnce r := by
  have hconnected' : (d.link.note .setupReceived).transport.connected = true := hconnected
  have houtcome : ((serve? d.requests (r.target d.model.policy) r (d.link.note .setupReceived)
      d.model).getD ((d.link.note .setupReceived).stall d.model)).outcome =
        ((d.handleRequest r).1.link, (d.handleRequest r).2) := rfl
  rcases answered_or_rejects hrequests hstock hconnected' (r.target d.model.policy) r with
    h | ⟨hrejects, hcdc, e, he⟩
  · rw [houtcome] at h
    obtain ⟨told, htold, hhistory⟩ := h.history
    obtain ⟨c, hc, htransport⟩ := h.transport
    refine ⟨⟨told, htold, ?_⟩, fun _ => ⟨c, hc, ?_⟩, ?_⟩
    · rw [hhistory, Link.note, List.append_assoc, List.singleton_append]
    · rw [htransport]
      rfl
    · intro e he
      rw [h.failure] at he
      cases he
  · rw [houtcome] at he
    obtain ⟨hlink, hfailure⟩ := Prod.mk.inj he
    refine ⟨⟨[], List.not_mem_nil, ?_⟩, ?_, fun _ _ => ⟨?_, hrejects, hcdc⟩⟩
    · rw [hlink]
      rfl
    · intro hnone
      rw [hfailure] at hnone
      cases hnone
    · rw [hlink]
      rfl

end Device

/-- A request goes to a handler only of its own kind. -/
theorem Request.kind_of_target {r : Request} {policy : Policy} {kind : HandlerKind}
    (h : r.target policy = .function kind) :
    (kind = .classSpecific ∧ r.kind = .classSpecific) ∨
      (kind = .vendorSpecific ∧ r.kind = .vendorSpecific) := by
  unfold target at h
  cases hkind : r.kind with
  | standard =>
    rw [hkind] at h
    cases hrecipient : r.recipient with
    | other =>
      rw [hrecipient] at h
      cases hother : policy.otherRecipient <;> rw [hother] at h <;> cases h
    | _ =>
      rw [hrecipient] at h
      cases h
  | classSpecific =>
    rw [hkind] at h
    cases h
    exact .inl ⟨rfl, rfl⟩
  | vendorSpecific =>
    rw [hkind] at h
    cases h
    exact .inr ⟨rfl, rfl⟩
  | reserved =>
    rw [hkind] at h
    cases h

/-- **One answer per SETUP packet.**  Whatever happened to a stock gadget, while it is connected it
answers every control request once, or a serial line in it rejects a line coding.  A request that
is rejected is a class request, or a vendor request and the gadget has a serial line for a vendor
handler; no built-in profile has one. -/
theorem Device.answersOnce_after {g : Gadget} (hg : g.Stock) (link : Link) (actions : List Action)
    (hconnected : ((ofGadget g link).after actions).link.transport.connected = true)
    (r : Request) :
    ((ofGadget g link).after actions).AnswersOnce r ∧
      ∀ e, (((ofGadget g link).after actions).handleRequest r).2 = some e →
        (r.kind = .classSpecific ∨
          r.kind = .vendorSpecific ∧ ¬ g.model.Each Interface.ReservesCdc) ∧
        ((∃ p o, Profile.build p o = .ok g) → r.kind = .classSpecific) := by
  have hkept {Q : Interface → Prop} (hQ : ∀ i : Interface, Q i.shape ↔ Q i)
      (h : g.model.Each Q) : ((ofGadget g link).after actions).model.Each Q :=
    (Model.lasting_each hQ hg.configurations_lookup).after (d := ofGadget g link) h actions
  have hstock := hkept Interface.stock_shape_iff hg.each
  have hrequests : ∀ code, (((ofGadget g link).after actions).requests.lookup code).Answers := by
    rw [requests_after]
    exact hg.answers_lookup
  have honce := answersOnce hrequests hstock hconnected r
  refine ⟨honce, ?_⟩
  intro e he
  obtain ⟨-, -, kind, s, htarget, hhandler⟩ := honce.rejected e he
  have hkind : r.kind = .classSpecific ∨
      r.kind = .vendorSpecific ∧ ¬ g.model.Each Interface.ReservesCdc := by
    rcases Request.kind_of_target htarget with ⟨-, hclass⟩ | ⟨rfl, hvendor⟩
    · exact .inl hclass
    · right
      refine ⟨hvendor, ?_⟩
      -- The handler that rejects now has been in the tree from the start.
      intro hreserves
      obtain ⟨i, hi, hcarries⟩ :=
        (hkept Interface.reservesCdc_shape_iff hreserves).handler? hhandler
      exact hi _ hcarries trivial
  refine ⟨hkind, ?_⟩
  rintro ⟨p, o, hp⟩
  refine hkind.resolve_right ?_
  rintro ⟨-, hnot⟩
  exact hnot fun c hc i hi => (Profile.each_of_build hp c hc i hi).2

/-- The hypotheses of `Device.answersOnce_after` are satisfiable: a modem that was connected and
configured answers a request to set the line coding that comes without one. -/
theorem Device.answersOnce_after_modem :
    ∃ g, Profile.cdcAcm.build {} = .ok g ∧
      let d := (ofGadget g {}).after [.connect, .event (.setup [0, 9, 1, 0, 0, 0, 0, 0])]
      d.link.transport.connected = true ∧
        d.AnswersOnce { requestType := 0x21, code := Cdc.RequestCode.setLineCoding } := by
  obtain ⟨g, hg⟩ : ∃ g, Profile.cdcAcm.build {} = .ok g := ⟨_, rfl⟩
  have hconnected : ((ofGadget g {}).after
      [.connect, .event (.setup [0, 9, 1, 0, 0, 0, 0, 0])]).link.transport.connected = true := by
    cases hg
    rfl
  exact ⟨g, hg, hconnected, (answersOnce_after (.profile .cdcAcm {} hg) {} _ hconnected _).1⟩

/-- An interface whose vendor handler is that of a serial line. -/
def Interface.vendorLine : Interface where
  number := 0
  classCode := 0xff
  functions := { vendorHandler := some (.cdc {}) }

/-- A request that is rejected need not be a class request: a serial line that serves as a vendor
handler rejects a vendor request. -/
theorem Device.exists_vendor_rejection :
    ¬ ∀ (g : Gadget) (link : Link) (actions : List Action) (r : Request) (e : UsbError), g.Stock →
      ((ofGadget g link).after actions).link.transport.connected = true →
      (((ofGadget g link).after actions).handleRequest r).2 = some e →
      r.kind = .classSpecific := by
  intro h
  let m : Model :=
    { info := {}, strings := {}, manufacturerIndex := 0, productIndex := 0, serialIndex := 0,
      configurations := [{ interfaces := [.vendorLine] }] }
  have hstock : m.Each Interface.Stock := by
    refine List.forall_mem_singleton.2 (List.forall_mem_singleton.2 ?_)
    refine ⟨rfl, List.forall_mem_nil _, ?_⟩
    rintro kind h (hget | ⟨ep, hep, -⟩)
    · cases kind <;> cases hget
      exact trivial
    · cases hep
  have hclass := h { model := m } {} [.connect, .event (.setup [0, 9, 1, 0, 0, 0, 0, 0])]
    { requestType := 0x40, code := Cdc.RequestCode.setLineCoding } _ (.plain hstock) rfl rfl
  exact absurd hclass (by decide)

end UsbGadget
