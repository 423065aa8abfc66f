/-
# The status of hub ports

The ports of a hub have six flags, and the features of a port act on each other:
power that goes off disables the port, a reset disables it, a port that is
disabled is not suspended.  But with nothing attached a port never becomes
enabled, so it is only ever `Port.idle`: it has power or not, and a reset is over
or not.

| flag | is set by | is cleared by |
| --- | --- | --- |
| power | setting feature 8 | clearing feature 8 |
| reset is over | setting feature 4 | clearing feature 20 |

An idle port stays idle under every feature, known or not (`applyFeature_idle`);
a class request changes no port but the one that it addresses (`ports_dispatch`).
So each flag is what was written last (`ports_after`), and that is what the host
is told (`tracksPorts_after`).
-/

import UsbGadget.Proofs.ControlPlane

namespace UsbGadget

/-! ### Who writes what -/

namespace Request

/-- The request addresses the port at a position: its number, from 1 on, is the low byte of the
index. -/
def AddressesPort (r : Request) (i : Fin Hub.portCount) : Prop :=
  r.recipient = .other ∧ r.index.toNat % 256 = i + 1

instance (r : Request) (i : Fin Hub.portCount) : Decidable (r.AddressesPort i) :=
  inferInstanceAs (Decidable (_ ∧ _))

/-- The power of a port that the request writes, if it does. -/
def powerWrite? (i : Fin Hub.portCount) (r : Request) : Option Bool :=
  if r.AddressesPort i ∧ r.value = Hub.PortFeature.power then r.featureSwitch? else none

/-- The request resets a port. -/
def ResetsPort (r : Request) (i : Fin Hub.portCount) : Prop :=
  r.AddressesPort i ∧ r.code = RequestCode.setFeature ∧ r.value = Hub.PortFeature.reset

/-- The request clears the change of a port that says that a reset is over. -/
def ClearsReset (r : Request) (i : Fin Hub.portCount) : Prop :=
  r.AddressesPort i ∧ r.code = RequestCode.clearFeature ∧ r.value = Hub.PortFeature.resetChange

instance (r : Request) (i : Fin Hub.portCount) : Decidable (r.ResetsPort i) :=
  inferInstanceAs (Decidable (_ ∧ _ ∧ _))

instance (r : Request) (i : Fin Hub.portCount) : Decidable (r.ClearsReset i) :=
  inferInstanceAs (Decidable (_ ∧ _ ∧ _))

/-- The end of a reset that the request writes, if it does. -/
def resetWrite? (i : Fin Hub.portCount) (r : Request) : Option Bool :=
  if r.ResetsPort i then some true else if r.ClearsReset i then some false else none

end Request

namespace Hub

/-- A port was reset, and the change that says so was not cleared since. -/
def ResetSince (i : Fin portCount) (rs : List Request) : Prop :=
  ∃ before r later, rs = before ++ r :: later ∧ r.ResetsPort i ∧ ∀ x ∈ later, ¬ x.ClearsReset i

/-- The reset bit is last written to one exactly when the port was reset and the change not cleared
since. -/
theorem resetSince_iff {i : Fin portCount} {rs : List Request} :
    lastWrite (Request.resetWrite? i) false rs = true ↔ ResetSince i rs := by
  have hset : ∀ r : Request, r.resetWrite? i = some true ↔ r.ResetsPort i := by
    intro r
    unfold Request.resetWrite?
    split_ifs <;> simp_all
  have hclear : ∀ r : Request, r.resetWrite? i ≠ some false ↔ ¬ r.ClearsReset i := by
    intro r
    unfold Request.resetWrite?
    split_ifs with hresets hclears
    · refine iff_of_true (by decide) fun hclears => ?_
      have hcode := hresets.2.1.symm.trans hclears.2.1
      exact absurd hcode (by decide)
    · exact iff_of_false (by decide) (not_not_intro hclears)
    · exact iff_of_true (by decide) hclears
  rw [lastWrite_eq_true_iff]
  simp only [hset, hclear]
  rfl

/-! ### Idle ports -/

/-- A port with nothing attached: it has power or not, and a reset is over or not. -/
def Port.idle (powered resetDone : Bool) : Port := { powered := powered, resetDone := resetDone }

/-- What a feature makes of an idle port, which stays idle. -/
theorem Port.applyFeature_idle (powered resetDone : Bool) (feature : UInt16) (on : Bool) :
    (idle powered resetDone).applyFeature feature on =
      idle (if feature = PortFeature.power then on else powered)
        (if feature = PortFeature.reset ∧ on then true
        else if feature = PortFeature.resetChange ∧ !on then false else resetDone) := by
  unfold applyFeature applyFeature?
  by_cases henable : feature = PortFeature.enable
  · subst henable
    cases on <;> rfl
  by_cases hsuspend : feature = PortFeature.suspend
  · subst hsuspend
    cases on <;> rfl
  by_cases hpower : feature = PortFeature.power
  · subst hpower
    cases on <;> rfl
  rw [if_neg henable, if_neg hsuspend, if_neg hpower, if_neg hpower]
  cases on with
  | true =>
    by_cases hreset : feature = PortFeature.reset
    · subst hreset
      rfl
    · rw [if_pos rfl, if_neg hreset, if_neg fun h => hreset h.1, if_neg fun h => nomatch h.2]
      rfl
  | false =>
    by_cases hchange : feature = PortFeature.resetChange
    · subst hchange
      rfl
    · simp only [hchange, Bool.false_eq_true, and_false, false_and, if_false]
      split_ifs <;> rfl

/-- Of an idle port the host is told the power and the end of a reset, and nothing else. -/
theorem Port.words_idle (powered resetDone : Bool) :
    (idle powered resetDone).status = (if powered then 0x0100 else 0) ∧
      (idle powered resetDone).change = if resetDone then 0x0010 else 0 := by
  cases powered <;> cases resetDone <;> exact ⟨rfl, rfl⟩

/-- An idle port has none of the first three bits set. -/
theorem Port.testBit_idle (powered resetDone : Bool) {bit : Nat} (hbit : bit ≤ 2) :
    (idle powered resetDone).status.toNat.testBit bit = false ∧
      (idle powered resetDone).change.toNat.testBit bit = false := by
  have hbits : bit = 0 ∨ bit = 1 ∨ bit = 2 := by omega
  rcases hbits with rfl | rfl | rfl <;> cases powered <;> cases resetDone <;> exact ⟨rfl, rfl⟩

/-! ### One request -/

/-- An index names a port exactly when its low byte is the number of the port. -/
theorem portAt?_eq_some_iff {index : UInt16} {i : Fin portCount} :
    portAt? index = some i ↔ index.toNat % 256 = i + 1 := by
  have hlow : (index &&& 0xff).toNat = index.toNat % 256 := by
    rw [UInt16.toNat_and]
    exact Nat.and_two_pow_sub_one_eq_mod index.toNat 8
  have hi := i.isLt
  unfold portAt?
  dsimp only
  split_ifs with hnumber
  · rw [hlow] at hnumber
    simp only [Option.some.injEq, Fin.ext_iff, hlow]
    omega
  · rw [hlow] at hnumber
    refine iff_of_false id ?_
    omega

/-- A request addresses a port just if its recipient is `other` and its index names the port. -/
theorem addressesPort_iff {r : Request} {i : Fin portCount} :
    r.AddressesPort i ↔ r.recipient = .other ∧ portAt? r.index = some i := by
  rw [portAt?_eq_some_iff]
  rfl

/-- Only two of the class requests change the state of a hub. -/
theorem state_lookup {code : UInt8} (hset : code ≠ RequestCode.setFeature)
    (hclear : code ≠ RequestCode.clearFeature) (speed : Speed) (r : Request) (link : Link)
    (s : State) : (requests.lookup code speed r link s).state = s := by
  refine RequestTable.lookup_of_forall
    (P := fun h : Handler State => (h speed r link s).state = s) ?_ ?_
  · exact Handler.state_serviced speed r link s
  · intro e he hcode
    have hlisted := Table.mem_ofList he
    simp only [List.mem_cons, List.not_mem_nil, or_false] at hlisted
    rcases hlisted with rfl | rfl | rfl | rfl
    · show (getStatus speed r link s).state = s
      unfold getStatus
      split
      · split
        · exact link.state_stall s
        · exact link.state_reply ..
      · exact link.state_reply ..
    · exact Link.state_reply ..
    · exact absurd hcode.symm hset
    · exact absurd hcode.symm hclear

/-- A class request changes no port but the one that it addresses, to which it applies a feature, if
it sets or clears one. -/
theorem ports_dispatch (speed : Speed) (r : Request) (link : Link) (s : State)
    (i : Fin portCount) :
    (requests.dispatch speed r link s).state.ports.get i =
      match if r.AddressesPort i then r.featureSwitch? else none with
      | some on => (s.ports.get i).applyFeature r.value on
      | none => s.ports.get i := by
  unfold RequestTable.dispatch
  rcases r.featureSwitch?_cases with ⟨on, hswitch, hcode⟩ | ⟨hswitch, hset, hclear⟩
  · have hlookup : requests.lookup r.code = changeFeature on := by
      rw [hcode]
      cases on <;> rfl
    rw [hlookup, hswitch, changeFeature]
    by_cases hother : r.recipient = .other
    · rw [if_pos hother]
      cases hport : portAt? r.index with
      | none =>
        have hnot : ¬ r.AddressesPort i := by
          rw [addressesPort_iff, hport]
          exact fun h => nomatch h.2
        rw [if_neg hnot]
        exact congrArg (·.ports.get i) (link.state_stall s)
      | some j =>
        dsimp only
        rw [Link.state_acknowledge]
        by_cases hij : j = i
        · subst hij
          rw [if_pos (addressesPort_iff.2 ⟨hother, hport⟩)]
          exact Vector.getElem_set_self ..
        · have hnot : ¬ r.AddressesPort i := by
            rw [addressesPort_iff, hport]
            exact fun h => hij (Option.some.inj h.2)
          rw [if_neg hnot]
          exact Vector.getElem_set_ne j.isLt i.isLt fun h => hij (Fin.ext h)
    · rw [if_neg hother, if_neg fun h => hother h.1]
      exact congrArg (·.ports.get i) (link.state_acknowledge s)
  · rw [hswitch, ite_self]
    exact congrArg (·.ports.get i) (state_lookup hset hclear speed r link s)

/-- What one class request makes of an idle port, which stays idle. -/
theorem ports_dispatch_idle {s : State} {i : Fin portCount} {powered resetDone : Bool}
    (h : s.ports.get i = .idle powered resetDone) (speed : Speed) (r : Request) (link : Link) :
    (requests.dispatch speed r link s).state.ports.get i =
      .idle ((r.powerWrite? i).getD powered) ((r.resetWrite? i).getD resetDone) := by
  rw [ports_dispatch, h]
  unfold Request.powerWrite? Request.resetWrite?
  by_cases hport : r.AddressesPort i
  · rw [if_pos hport]
    rcases r.featureSwitch?_cases with ⟨on, hswitch, hcode⟩ | ⟨hswitch, hset, hclear⟩
    · have hresets : r.ResetsPort i ↔ r.value = PortFeature.reset ∧ on = true := by
        unfold Request.ResetsPort
        rw [hcode]
        cases on <;> simp [hport, RequestCode.setFeature, RequestCode.clearFeature]
      have hclears : r.ClearsReset i ↔ r.value = PortFeature.resetChange ∧ (!on) = true := by
        unfold Request.ClearsReset
        rw [hcode]
        cases on <;> simp [hport, RequestCode.setFeature, RequestCode.clearFeature]
      rw [hswitch]
      dsimp only
      rw [Port.applyFeature_idle]
      simp only [hport, true_and, hresets, hclears]
      congr 1 <;> split_ifs <;> rfl
    · have hresets : ¬ r.ResetsPort i := fun hresets => hset hresets.2.1
      have hclears : ¬ r.ClearsReset i := fun hclears => hclear hclears.2.1
      rw [hswitch, ite_self, if_neg hresets, if_neg hclears]
      rfl
  · have hresets : ¬ r.ResetsPort i := fun hresets => hport hresets.1
    have hclears : ¬ r.ClearsReset i := fun hclears => hport hclears.1
    rw [if_neg hport, if_neg fun h => hport h.1, if_neg hresets, if_neg hclears]
    rfl

end Hub

/-! ### A run of requests -/

/-- A handler and its link after requests that it serves one after the other, whether one fails or
not. -/
def ClassHandler.after {σ : Type} (speed : Speed) (x : ClassHandler σ × Link) (rs : List Request) :
    ClassHandler σ × Link :=
  rs.foldl (fun x r => ((x.1.serve speed r x.2).state, (x.1.serve speed r x.2).link)) x

namespace Hub

variable {speed : Speed} {x : ClassHandler State × Link}

/-- After a run an idle port has the power, and the end of a reset, that were written last. -/
theorem ports_after (hrequests : x.1.requests = requests) {i : Fin portCount}
    {powered resetDone : Bool} (h : x.1.state.ports.get i = .idle powered resetDone)
    (rs : List Request) :
    (ClassHandler.after speed x rs).1.state.ports.get i =
      .idle (lastWrite (Request.powerWrite? i) powered rs)
        (lastWrite (Request.resetWrite? i) resetDone rs) := by
  induction rs generalizing x powered resetDone with
  | nil => exact h
  | cons r rs ih =>
    rw [lastWrite_cons, lastWrite_cons]
    refine ih (x := ((x.1.serve speed r x.2).state, (x.1.serve speed r x.2).link)) hrequests ?_
    have hport := ports_dispatch_idle h speed r x.2
    rw [← hrequests] at hport
    exact hport

/-- A run of a class handler leaves its table alone. -/
theorem requests_after (speed : Speed) (x : ClassHandler State × Link) (rs : List Request) :
    (ClassHandler.after speed x rs).1.requests = x.1.requests := by
  induction rs generalizing x with
  | nil => rfl
  | cons r rs ih => exact ih _

/-- The transport stays connected, because every class request is answered. -/
theorem connected_after (hrequests : x.1.requests = requests)
    (hconnected : x.2.transport.connected = true) (rs : List Request) :
    (ClassHandler.after speed x rs).2.transport.connected = true := by
  induction rs generalizing x with
  | nil => exact hconnected
  | cons r rs ih =>
    refine ih hrequests ?_
    have hanswered := answers_lookup r.code speed r x.2 x.1.state hconnected
    rw [← hrequests] at hanswered
    exact hanswered.connected.trans hconnected

/-- The host is told the two words of the port that it asks for. -/
theorem serve_getStatus {h : ClassHandler State} (hrequests : h.requests = requests) {link : Link}
    (hconnected : link.transport.connected = true) {r : Request} {i : Fin portCount}
    (hport : r.AddressesPort i) (hcode : r.code = RequestCode.getStatus) :
    h.serve speed r link =
      ⟨h, { link with
        transport := link.transport.record (.send 0
          ((Bytes.ofWord (h.state.ports.get i).status ++
            Bytes.ofWord (h.state.ports.get i).change).take r.length.toNat)) }, none⟩ := by
  obtain ⟨hother, hat⟩ := addressesPort_iff.1 hport
  have hlookup : h.requests.lookup r.code = getStatus := by
    rw [hrequests, hcode]
    rfl
  rw [ClassHandler.serve, RequestTable.dispatch, hlookup, getStatus, if_pos hother, hat]
  dsimp only
  rw [Link.reply_of_connected hconnected]
  rfl

/-- A port that the hub does not have is answered with a stall. -/
theorem serve_unknownPort {h : ClassHandler State} (hrequests : h.requests = requests) {link : Link}
    (hconnected : link.transport.connected = true) {r : Request} (hother : r.recipient = .other)
    (hport : ∀ i, ¬ r.AddressesPort i)
    (hcode : r.code = RequestCode.getStatus ∨ r.code = RequestCode.setFeature ∨
      r.code = RequestCode.clearFeature) :
    h.serve speed r link =
      ⟨h, { link with transport := link.transport.record .stall }, none⟩ := by
  have hat : portAt? r.index = none := by
    rw [Option.eq_none_iff_forall_not_mem]
    exact fun i hi => hport i (addressesPort_iff.2 ⟨hother, hi⟩)
  have hstalls : h.requests.lookup r.code speed r link h.state = link.stall h.state := by
    rw [hrequests]
    rcases hcode with hcode | hcode | hcode
    · have hlookup : requests.lookup r.code = getStatus := by
        rw [hcode]
        rfl
      rw [hlookup, getStatus, if_pos hother, hat]
    · have hlookup : requests.lookup r.code = changeFeature true := by
        rw [hcode]
        rfl
      rw [hlookup, changeFeature, if_pos hother, hat]
    · have hlookup : requests.lookup r.code = changeFeature false := by
        rw [hcode]
        rfl
      rw [hlookup, changeFeature, if_pos hother, hat]
  rw [ClassHandler.serve, RequestTable.dispatch, hstalls, Link.stall,
    Link.call_of_connected (r := r) (c := .stall) hconnected trivial]
  rfl

/-- The ports of a hub that served the requests, and what the host is told of them.

* Asked for a port, the hub replies with two words, and changes nothing: the first one is `0x0100`
  if the last request that switches the power of the port switched it on, the second one is `0x0010`
  if the port was reset and that was not cleared since, and otherwise they are 0.
* No port says that a device is attached, that it is enabled or suspended, or that one of these
  changed.
* No request changes a port that it does not address.
* A port that the hub does not have is answered with one stall, and nothing changes. -/
structure TracksPorts (speed : Speed) (rs : List Request) (h : ClassHandler State) (link : Link) :
    Prop where
  status : ∀ (r : Request) i, r.AddressesPort i → r.code = RequestCode.getStatus →
    ∃ reset : Bool, (reset = true ↔ ResetSince i rs) ∧
      h.serve speed r link =
        ⟨h, { link with
          transport := link.transport.record (.send 0
            ((Bytes.ofWord (if lastWrite (Request.powerWrite? i) false rs then 0x0100 else 0) ++
              Bytes.ofWord (if reset then 0x0010 else 0)).take r.length.toNat)) }, none⟩
  never : ∀ (i : Fin portCount) bit, bit ≤ 2 →
    (h.state.ports.get i).status.toNat.testBit bit = false ∧
      (h.state.ports.get i).change.toNat.testBit bit = false
  others : ∀ (r : Request) i, ¬ r.AddressesPort i →
    (h.serve speed r link).state.state.ports.get i = h.state.ports.get i
  unknownPort : ∀ r : Request, r.recipient = .other →
    r.index.toNat % 256 = 0 ∨ portCount < r.index.toNat % 256 →
    r.code = RequestCode.getStatus ∨ r.code = RequestCode.setFeature ∨
      r.code = RequestCode.clearFeature →
    h.serve speed r link =
      ⟨h, { link with transport := link.transport.record .stall }, none⟩

/-- **The status of a port is its last power and its last reset.**  Whatever class requests a hub
has served over a connected transport, the host is told of each port whether it was given power
last, and whether a reset is over that was not cleared since; nothing is ever attached to a port,
and no request reaches another port than the one that it addresses. -/
theorem tracksPorts_after (speed : Speed) {link : Link}
    (hconnected : link.transport.connected = true) (rs : List Request) :
    let x := ClassHandler.after speed (handler {}, link) rs
    TracksPorts speed rs x.1 x.2 := by
  intro x
  have hrequests : x.1.requests = requests := requests_after speed (handler {}, link) rs
  have hlink : x.2.transport.connected = true := connected_after rfl hconnected rs
  have hidle (i : Fin portCount) : x.1.state.ports.get i =
      .idle (lastWrite (Request.powerWrite? i) false rs)
        (lastWrite (Request.resetWrite? i) false rs) := by
    refine ports_after rfl ?_ rs
    exact Vector.getElem_replicate ..
  refine ⟨?_, ?_, ?_, ?_⟩
  · intro r i hport hcode
    obtain ⟨hstatus, hchange⟩ := Port.words_idle (lastWrite (Request.powerWrite? i) false rs)
      (lastWrite (Request.resetWrite? i) false rs)
    refine ⟨_, resetSince_iff, ?_⟩
    rw [serve_getStatus hrequests hlink hport hcode, hidle, hstatus, hchange]
  · intro i bit hbit
    rw [hidle]
    exact Port.testBit_idle _ _ hbit
  · intro r i hport
    have hkept := ports_dispatch speed r x.2 x.1.state i
    rw [if_neg hport, ← hrequests] at hkept
    exact hkept
  · intro r hother hindex hcode
    refine serve_unknownPort hrequests hlink hother (fun i hport => ?_) hcode
    have hlt := i.isLt
    have hnumber := hport.2
    omega

/-- The hypothesis of `Hub.tracksPorts_after` is satisfiable: the second port is powered and reset,
the first one is reset and acknowledged, and a request to the hub itself and one to a fifth port
change nothing. -/
theorem tracksPorts_after_second :
    let rs : List Request :=
      [{ requestType := 0x23, code := 3, value := 8, index := 2 },
        { requestType := 0x23, code := 3, value := 4, index := 2 },
        { requestType := 0x23, code := 3, value := 4, index := 1 },
        { requestType := 0x20, code := 1, value := 8, index := 2 },
        { requestType := 0x23, code := 1, value := 20, index := 1 },
        { requestType := 0x23, code := 1, value := 8, index := 5 }]
    let x := ClassHandler.after .full (handler {}, { transport := { connected := true } }) rs
    let ask : Request := { requestType := 0xa3, code := 0, index := 2, length := 4 }
    TracksPorts .full rs x.1 x.2 ∧
      (x.1.serve .full ask x.2).link.transport.log =
        x.2.transport.log ++ [.send 0 [0x00, 0x01, 0x10, 0x00]] := by
  intro rs x ask
  let link : Link := { transport := { connected := true } }
  have hconnected : link.transport.connected = true := rfl
  have h := tracksPorts_after .full hconnected rs
  let second : Fin portCount := ⟨1, by decide⟩
  obtain ⟨reset, hreset, hserve⟩ := h.status ask second (by decide) rfl
  have hpowered : lastWrite (Request.powerWrite? second) false rs = true := by decide +kernel
  obtain rfl : reset = true := hreset.2 (resetSince_iff.1 (by decide +kernel))
  refine ⟨h, ?_⟩
  rw [hserve, hpowered]
  rfl

end Hub

end UsbGadget
