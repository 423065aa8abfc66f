/-
# State and active configuration

That a device is configured is kept twice: as the state of its connection, and
as the configuration that is active.  Selecting a configuration, or leaving it,
writes both; connecting and disconnecting write the state alone.

So a device that is configured has an active configuration, and the value that
the host is told when it asks is 0 just if there is none
(`Device.TellsActive`).  The converse holds as long as the device is connected
and disconnected only while no configuration is active: `Device.agrees_after`
says that this is needed and enough.  Otherwise the configuration of one session
is still active in the next, in which the host has not selected any.
-/

import Mathlib.Data.List.Induction
import UsbGadget.Proofs.Routing

namespace UsbGadget

namespace Model

/-- A configuration is active just if the device is configured. -/
def Agrees (m : Model) : Prop := m.state = .configured ↔ m.active.isSome

/-- A model that has left every configuration is not configured and has none active. -/
theorem agrees_deconfigure (m : Model) : m.deconfigure.Agrees := by
  constructor <;> exact fun h => nomatch h

/-- A model that selects a configuration is configured and has it active. -/
theorem agrees_activate (m : Model) (position : Nat) (c : Configuration) :
    (m.activate position c).Agrees := by
  constructor <;> exact fun _ => rfl

/-- A model that has selected agrees, whatever it was before. -/
theorem agrees_selectConfiguration? {m m' : Model} {value : UInt8}
    (h : m.selectConfiguration? value = some m') : m'.Agrees := by
  rcases eq_of_selectConfiguration? h with ⟨-, rfl⟩ | ⟨position, c, -, -, -, rfl⟩
  · exact m.agrees_deconfigure
  · exact m.agrees_activate position c

/-- A standard request selects, or it keeps both the state and the active configuration. -/
theorem agrees_or_kept_of_effect {m m' : Model} (h : StandardRequests.Effect m m') :
    m'.Agrees ∨ m'.state = m.state ∧ m'.active = m.active := by
  cases h with
  | nothing => exact .inr ⟨rfl, rfl⟩
  | wakeup on => exact .inr ⟨rfl, rfl⟩
  | address address => exact .inr ⟨rfl, rfl⟩
  | select hselect => exact .inl (agrees_selectConfiguration? hselect)

/-- Every model that can be made agrees. -/
theorem Made.agrees {m : Model} (h : m.Made) : m.Agrees := by
  refine Made.induct ?_ ?_ ?_ h
  · intro info configurations m hbuild
    obtain ⟨hactive, -, hstate⟩ := fresh_of_build hbuild
    unfold Agrees
    rw [hactive, hstate]
    exact iff_of_false DeviceState.noConfusion Bool.false_ne_true
  · exact fun m info strings speed policy store hagrees => hagrees
  · intro value m m' _ hselect
    exact agrees_selectConfiguration? hselect

/-- Every configuration has a value that selects it. -/
def Numbered (m : Model) : Prop := ∀ c ∈ m.configurations, c.value ≠ 0

/-- The configurations are numbered from the first value up. -/
theorem value_of_mem_numberConfigurations {t : StringTable} {value : Nat}
    {cs : List Configuration} {c' : Configuration}
    (h : c' ∈ (numberConfigurations t value cs).1) :
    ∃ k, value ≤ k ∧ k < value + cs.length ∧ c'.value = UInt8.ofNat k := by
  induction cs generalizing t value with
  | nil => cases h
  | cons c cs ih =>
    rw [List.length_cons]
    rcases List.mem_cons.1 h with rfl | h
    · exact ⟨value, Nat.le_refl _, by omega, rfl⟩
    · obtain ⟨k, hle, hlt, hk⟩ := ih h
      exact ⟨k, by omega, by omega, hk⟩

/-- A model that is built has numbered its configurations. -/
theorem numbered_of_build {info : DeviceInfo} {cs : List Configuration} {m : Model}
    (h : build info cs = .ok m) : m.Numbered := by
  unfold build at h
  split_ifs at h with _ hlength
  cases h
  intro c hc
  obtain ⟨k, hle, hlt, hk⟩ := value_of_mem_numberConfigurations hc
  -- There are at most 255 configurations, so no number is lost in one byte.
  have hmax : cs.length ≤ 255 := Nat.le_of_not_lt hlength
  have hlt : k < 256 := by omega
  have htoNat : (UInt8.ofNat k).toNat = k := UInt8.toNat_ofNat_of_lt' hlt
  intro hzero
  rw [← hk, hzero] at htoNat
  have : k = 0 := htoNat.symm
  omega

/-- Every model that can be made has numbered its configurations. -/
theorem Made.numbered {m : Model} (h : m.Made) : m.Numbered := by
  refine Made.induct numbered_of_build ?_ ?_ h
  · exact fun m info strings speed policy store hnumbered => hnumbered
  · intro value m m' hnumbered hselect c hc
    exact hnumbered c ((StandardRequests.Effect.select hselect).configurations_eq ▸ hc)

/-- Whether the configurations are numbered is a matter of the shape. -/
theorem numbered_shape_iff (m : Model) : m.shape.Numbered ↔ m.Numbered := by
  simp only [Numbered, shape, Configuration.shape, List.forall_mem_map]

/-- Nothing that happens to a device changes the numbers of its configurations. -/
theorem lasting_numbered : Device.Lasting StandardRequests.requests Numbered where
  shape m m' hshape h := by
    rw [← numbered_shape_iff, hshape, numbered_shape_iff]
    exact h
  state _ _ h := h
  request speed r link m h := by
    intro c hc
    rw [(StandardRequests.effect speed r link m).configurations_eq] at hc
    exact h c hc

/-- The value that the host is told is 0 just if no configuration is active. -/
theorem Routed.activeValue_ne_zero_iff {m : Model} (h : m.Routed) (hm : m.Numbered) :
    m.activeValue ≠ 0 ↔ m.active.isSome := by
  unfold activeValue activeConfiguration?
  cases hactive : m.active with
  | none => exact iff_of_false (not_not_intro rfl) Bool.false_ne_true
  | some position =>
    obtain ⟨c, hc, -⟩ := h.active position hactive
    rw [Option.bind_some, hc]
    exact iff_of_true (hm c (List.mem_of_getElem? hc)) rfl

end Model

namespace Device

/-- Asked for its configuration, the device tells the host the value. -/
def Tells (d : Device) (value : UInt8) : Prop :=
  ∀ r : Request, r.kind = .standard → r.recipient = .device →
    r.code = RequestCode.getConfiguration → 1 ≤ r.length.toNat →
    d.link.transport.connected = true →
    (d.handleRequest r).1.link.transport.log = d.link.transport.log ++ [.send 0 [value]]

/-- A device that is configured has an active configuration, and the value that it tells is 0 just
if it has none. -/
structure TellsActive (d : Device) : Prop where
  configured : d.model.state = .configured → d.model.active.isSome
  told : ∃ value, d.Tells value ∧ (value ≠ 0 ↔ d.model.active.isSome)

/-- A configuration is active just if the device is configured, and the value that it tells is 0
just if it is not. -/
structure Agrees (d : Device) : Prop where
  active : d.model.state = .configured ↔ d.model.active.isSome
  told : ∃ value, d.Tells value ∧ (value ≠ 0 ↔ d.model.state = .configured)

/-- The action connects the device or disconnects it. -/
def MovesBus (d : Device) : Action → Prop
  | .connect | .disconnect => True
  | .poll => d.poll.1 = true
  | .event _ => False

variable {d : Device}

/-- A device that tells its active configuration agrees if its model does. -/
theorem TellsActive.agrees (h : d.TellsActive) (hagrees : d.model.Agrees) : d.Agrees where
  active := hagrees
  told := by
    obtain ⟨value, hvalue, hzero⟩ := h.told
    exact ⟨value, hvalue, hzero.trans hagrees.symm⟩

/-- Asked for its configuration, a device tells the value of the active one, or 0. -/
theorem tells_activeValue (h : d.requests = StandardRequests.requests) :
    d.Tells d.model.activeValue := by
  intro r hkind hrecipient hcode hlength hconnected
  have htarget : r.target d.model.policy = .device := by
    rw [Request.target, hkind]
    dsimp only
    rw [hrecipient]
  have hlookup : d.requests.lookup r.code = StandardRequests.getConfiguration := by
    rw [h, hcode]
    rfl
  have htake : [d.model.activeValue].take r.length.toNat = [d.model.activeValue] :=
    List.take_of_length_le hlength
  have hrefusal : (d.link.note .setupReceived).transport.refusal?
      (.send 0 [d.model.activeValue]) = none := by
    show d.link.transport.refusal? _ = none
    rw [Transport.refusal?, hconnected]
    rfl
  rw [handleRequest, htarget]
  show ((d.requests.lookup r.code) d.model.speed r (d.link.note .setupReceived)
    d.model).link.transport.log = _
  rw [hlookup, StandardRequests.getConfiguration, Link.reply, htake, Link.send,
    Link.call_of_refusal?_eq_none hrefusal]
  rfl

/-! ### What one action does to both -/

/-- A device that connects or disconnects is not configured, and keeps its active configuration. -/
theorem state_act_of_movesBus {a : Action} (h : d.MovesBus a) :
    (d.act a).model.state ≠ .configured ∧ (d.act a).model.active = d.model.active := by
  cases a with
  | connect => exact ⟨DeviceState.noConfusion, rfl⟩
  | disconnect => exact ⟨DeviceState.noConfusion, rfl⟩
  | poll =>
    have hstop : d.poll.1 = true := h
    rw [act_poll, if_pos hstop]
    exact ⟨DeviceState.noConfusion, rfl⟩
  | event e => exact h.elim

/-- All other actions keep both, or write both. -/
theorem agrees_or_kept_act (hrequests : d.requests = StandardRequests.requests) {a : Action}
    (h : ¬ d.MovesBus a) :
    (d.act a).model.Agrees ∨
      (d.act a).model.state = d.model.state ∧ (d.act a).model.active = d.model.active := by
  cases a with
  | connect => exact absurd trivial h
  | disconnect => exact absurd trivial h
  | poll =>
    right
    have hstop : ¬ d.poll.1 = true := h
    rw [act_poll, if_neg hstop]
    exact ⟨rfl, rfl⟩
  | event e =>
    rcases d.model_handleEvent e with hshape | ⟨r, hmodel⟩
    · right
      have hstate : (d.handleEvent e).1.model.shape.state = d.model.shape.state :=
        congrArg (·.state) hshape
      have hactive : (d.handleEvent e).1.model.shape.active = d.model.shape.active :=
        congrArg (·.active) hshape
      exact ⟨hstate, hactive⟩
    · rw [act, hmodel, hrequests]
      exact Model.agrees_or_kept_of_effect (StandardRequests.effect ..)

/-- A model agrees after an action, unless that moves the bus while a configuration is active. -/
theorem agrees_act (hrequests : d.requests = StandardRequests.requests) {a : Action}
    (ha : d.MovesBus a → d.model.active = none) (h : d.model.Agrees) :
    (d.act a).model.Agrees := by
  by_cases hmoves : d.MovesBus a
  · obtain ⟨hstate, hactive⟩ := state_act_of_movesBus hmoves
    unfold Model.Agrees
    rw [hactive, ha hmoves]
    exact iff_of_false hstate Bool.false_ne_true
  · rcases agrees_or_kept_act hrequests hmoves with hagrees | ⟨hstate, hactive⟩
    · exact hagrees
    · unfold Model.Agrees
      rw [hstate, hactive]
      exact h

/-- That a configured device has an active configuration is kept by every action. -/
theorem isSome_active_act (hrequests : d.requests = StandardRequests.requests) (a : Action)
    (h : d.model.state = .configured → d.model.active.isSome)
    (hstate : (d.act a).model.state = .configured) : (d.act a).model.active.isSome := by
  by_cases hmoves : d.MovesBus a
  · exact absurd hstate (state_act_of_movesBus hmoves).1
  · rcases agrees_or_kept_act hrequests hmoves with hagrees | ⟨hkept, hactive⟩
    · exact hagrees.1 hstate
    · rw [hactive]
      exact h (hkept ▸ hstate)

/-! ### What all actions do -/

section

variable {m : Model} (hm : m.Made) (link : Link)
include hm

/-- A device that is configured has an active configuration, whatever happened to it. -/
theorem isSome_active_after (actions : List Action)
    (h : ((ofGadget { model := m } link).after actions).model.state = .configured) :
    ((ofGadget { model := m } link).after actions).model.active.isSome := by
  induction actions using List.reverseRecOn with
  | nil => exact hm.agrees.1 h
  | append_singleton before a ih =>
    rw [after_append] at h ⊢
    exact isSome_active_act (requests_after _ before) a ih h

/-- A device tells the value of its active configuration, whatever happened to it. -/
theorem tellsActive_after (actions : List Action) :
    ((ofGadget { model := m } link).after actions).TellsActive where
  configured := isSome_active_after hm link actions
  told := by
    have hrouted := Model.lasting_routed.after (d := ofGadget { model := m } link) hm.routed actions
    have hnumbered :=
      Model.lasting_numbered.after (d := ofGadget { model := m } link) hm.numbered actions
    exact ⟨_, tells_activeValue (requests_after _ actions),
      hrouted.activeValue_ne_zero_iff hnumbered⟩

/-- A model agrees after actions of which none moves the bus while a configuration is active. -/
theorem model_agrees_after {actions : List Action}
    (h : ∀ before a, before ++ [a] <+: actions →
      ((ofGadget { model := m } link).after before).MovesBus a →
        ((ofGadget { model := m } link).after before).model.active = none) :
    ((ofGadget { model := m } link).after actions).model.Agrees := by
  induction actions using List.reverseRecOn with
  | nil => exact hm.agrees
  | append_singleton before a ih =>
    rw [after_append]
    refine agrees_act (requests_after _ before) (h before a List.prefix_rfl) (ih ?_)
    intro earlier b hbefore
    exact h earlier b (hbefore.trans (List.prefix_append before [a]))

end

/-- **State and active configuration agree as long as the device is connected and disconnected only
while no configuration is active**, and no longer.  At all times a device that is configured has an
active configuration, and it is the active configuration that the host is told of.  All this is
about whole runs as well, since each of them is a list of actions. -/
theorem agrees_after {m : Model} (hm : m.Made) (link : Link) (actions : List Action) :
    let d := ofGadget { model := m } link
    (d.after actions).TellsActive ∧
      ((∀ before, before <+: actions → (d.after before).Agrees) ↔
        ∀ before a, before ++ [a] <+: actions → (d.after before).MovesBus a →
          (d.after before).model.active = none) ∧
      ∀ events, ∃ more, ((d.after actions).run events).1 = d.after (actions ++ more) := by
  intro d
  refine ⟨tellsActive_after hm link actions, ⟨?_, ?_⟩, ?_⟩
  · intro hagrees before a hbefore hmoves
    obtain ⟨hstate, hactive⟩ := state_act_of_movesBus hmoves
    have hafter := (hagrees (before ++ [a]) hbefore).active
    rw [after_append] at hafter
    rw [← hactive]
    exact Option.not_isSome_iff_eq_none.1 fun hsome => hstate (hafter.2 hsome)
  · intro hidle before hbefore
    refine (tellsActive_after hm link before).agrees (model_agrees_after hm link ?_)
    intro earlier a hearlier
    exact hidle earlier a (hearlier.trans hbefore)
  · intro events
    obtain ⟨more, hmore⟩ := (d.after actions).exists_after_run events
    exact ⟨more, hmore.trans (d.after_append actions more).symm⟩

/-- The hypothesis of `Device.agrees_after` is satisfiable: a device with one configuration, which
the host selects, does not agree with itself after it is disconnected. -/
theorem agrees_after_disconnect :
    ∃ m, Model.build {} [{}] = .ok m ∧
      let d := ofGadget { model := m } {}
      let actions : List Action :=
        [.connect, .event (.setup [0, 9, 1, 0, 0, 0, 0, 0]), .disconnect]
      (d.after actions).TellsActive ∧
        ¬ ∀ before, before <+: actions → (d.after before).Agrees := by
  obtain ⟨m, hm⟩ : ∃ m, Model.build {} [{}] = .ok m := ⟨_, rfl⟩
  obtain ⟨htells, hagrees, -⟩ := agrees_after (.build hm) {}
    [.connect, .event (.setup [0, 9, 1, 0, 0, 0, 0, 0]), .disconnect]
  refine ⟨m, hm, htells, ?_⟩
  intro hall
  have hnone := hagrees.1 hall [.connect, .event (.setup [0, 9, 1, 0, 0, 0, 0, 0])] .disconnect
    List.prefix_rfl trivial
  cases hm
  cases hnone

/-- The configuration of one session is still active in the next. -/
theorem not_agrees_second_session :
    ¬ ∀ m : Model, m.Made → ∀ (link : Link) (actions : List Action),
      ((ofGadget { model := m } link).after actions).Agrees := by
  intro h
  obtain ⟨m, hm⟩ : ∃ m, Model.build {} [{}] = .ok m := ⟨_, rfl⟩
  have hagrees := h m (.build hm) {}
    [.connect, .event (.setup [0, 9, 1, 0, 0, 0, 0, 0]), .disconnect, .connect]
  cases hm
  cases hagrees.active.2 rfl

end Device
end UsbGadget
