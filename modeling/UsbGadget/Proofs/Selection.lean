/-
# What the host reads is what it selects

A configuration goes by three numbers:

| number | from | to | where |
| --- | ---: | ---: | --- |
| position | 0 | `n - 1` | in the list that the model is built of |
| descriptor index | 0 | 255 | in the request for its descriptor; any past the end stands for 0 |
| value | 1 | `n` | in the descriptor, and in the requests to set and get the configuration |

A model can be built of `n` configurations just if the values fit their byte
(`Model.exists_build_iff`), and then the value of a configuration is its position
plus one, for good (`Model.builtOf_of_build`, `Model.lasting_builtOf`).  So the
value in the descriptor that an index leads to selects the configuration whose
descriptor it is.  What the host is told is the value that the last selection
left (`Device.activeValue_after`), so it is told that one until it selects again.

Value 0 leaves every configuration, and the policy decides on all values past the
end.  `Device.selectsWhatIsRead_after` puts all of this together.
-/

import UsbGadget.Proofs.Stability

namespace UsbGadget

/-! ### Designs -/

/-- The interface without what building a model fills in, and without what its parts keep for
themselves. -/
def Interface.design (i : Interface) : Interface := { i.shape with stringIndex := 0 }

/-- The configuration without what building a model fills in, and without what its parts keep for
themselves. -/
def Configuration.design (c : Configuration) : Configuration :=
  { c with value := 0, stringIndex := 0, interfaces := c.interfaces.map (·.design) }

/-- Designs have no more in them than shapes. -/
theorem Configuration.design_of_shape {c c' : Configuration} (h : c'.shape = c.shape) :
    c'.design = c.design := by
  have hdesign : ∀ c : Configuration, c.design =
      { c.shape with
        value := 0
        stringIndex := 0
        interfaces := c.shape.interfaces.map fun i => { i with stringIndex := 0 } } := by
    intro c
    simp only [design, shape, List.map_map, Function.comp_def, Interface.design]
  rw [hdesign, h, ← hdesign]

namespace Model

/-! ### Values -/

/-- The configurations are the given ones, and the value of each is its position plus one. -/
structure BuiltOf (given : List Configuration) (m : Model) : Prop where
  designs : m.configurations.map (·.design) = given.map (·.design)
  values : ∀ position c, m.configurations[position]? = some c → c.value.toNat = position + 1

/-- Numbering the interfaces of a configuration changes none of their designs. -/
theorem map_design_nameInterfaces (t : StringTable) (is : List Interface) :
    (nameInterfaces t is).1.map (·.design) = is.map (·.design) := by
  induction is generalizing t with
  | nil => rfl
  | cons i is ih => exact congrArg (i.design :: ·) (ih _)

/-- Numbering the configurations of a device changes none of their designs. -/
theorem map_design_numberConfigurations (t : StringTable) (value : Nat)
    (cs : List Configuration) :
    (numberConfigurations t value cs).1.map (·.design) = cs.map (·.design) := by
  induction cs generalizing t value with
  | nil => rfl
  | cons c cs ih =>
    have hdesign : ∀ (value index : UInt8) (is : List Interface),
        is.map (·.design) = c.interfaces.map (·.design) →
          ({ c with value := value, stringIndex := index, interfaces := is } :
            Configuration).design = c.design := by
      intro value index is his
      simp only [Configuration.design, his]
    exact congrArg₂ List.cons (hdesign _ _ _ (map_design_nameInterfaces _ _)) (ih _ _)

/-- The values count up from the first one. -/
theorem value_numberConfigurations {t : StringTable} {value : Nat} {cs : List Configuration}
    {position : Nat} {c' : Configuration}
    (h : (numberConfigurations t value cs).1[position]? = some c') :
    c'.value = UInt8.ofNat (value + position) := by
  induction cs generalizing t value position with
  | nil => cases h
  | cons c cs ih =>
    cases position with
    | zero =>
      cases h
      rfl
    | succ position =>
      rw [ih h]
      congr 1
      omega

/-- A model can be built of a list just if the values of all configurations fit their byte. -/
theorem exists_build_iff (info : DeviceInfo) (given : List Configuration) :
    (∃ m, build info given = .ok m) ↔ 1 ≤ given.length ∧ given.length ≤ 255 := by
  have hpositive : given.isEmpty = true ↔ ¬ 1 ≤ given.length := by
    rw [List.isEmpty_iff_length_eq_zero]
    omega
  unfold build maxConfigurations
  split_ifs with hempty hmany
  · exact iff_of_false (fun ⟨m, h⟩ => nomatch h) fun h => hpositive.1 hempty h.1
  · exact iff_of_false (fun ⟨m, h⟩ => nomatch h) fun h => Nat.not_lt.2 h.2 hmany
  · refine iff_of_true ⟨_, rfl⟩ ⟨?_, Nat.le_of_not_lt hmany⟩
    exact Decidable.of_not_not fun h => hempty (hpositive.2 h)

/-- A model that was built has the configurations it was given, numbered from 1. -/
theorem exists_configurations_eq {info : DeviceInfo} {given : List Configuration} {m : Model}
    (h : build info given = .ok m) :
    ∃ t, m.configurations = (numberConfigurations t 1 given).1 := by
  unfold build at h
  split_ifs at h
  cases h
  exact ⟨_, rfl⟩

/-- A model that was built is built of the configurations it was given. -/
theorem builtOf_of_build {info : DeviceInfo} {given : List Configuration} {m : Model}
    (h : build info given = .ok m) : m.BuiltOf given := by
  have hmany := ((exists_build_iff info given).1 ⟨m, h⟩).2
  obtain ⟨t, ht⟩ := exists_configurations_eq h
  have hdesigns : m.configurations.map (·.design) = given.map (·.design) := by
    rw [ht, map_design_numberConfigurations]
  have hlength := congrArg List.length hdesigns
  rw [List.length_map, List.length_map] at hlength
  refine ⟨hdesigns, ?_⟩
  intro position c hc
  -- There are at most 255 configurations, so no number is lost in one byte.
  have hposition := (List.getElem?_eq_some_iff.1 hc).1
  have hlt : 1 + position < 256 := by omega
  rw [ht] at hc
  rw [value_numberConfigurations hc, UInt8.toNat_ofNat_of_lt' hlt, Nat.add_comm]

/-- All that counts is the configurations. -/
theorem BuiltOf.of_configurations_eq {given : List Configuration} {m m' : Model}
    (h : m.BuiltOf given) (heq : m'.configurations = m.configurations) : m'.BuiltOf given := by
  obtain ⟨hdesigns, hvalues⟩ := h
  exact ⟨heq ▸ hdesigns, heq ▸ hvalues⟩

/-- The values stay. -/
theorem lasting_builtOf (given : List Configuration) :
    Device.Lasting StandardRequests.requests (BuiltOf given) where
  shape m m' hshape h := by
    have htree : m'.configurations.map (·.shape) = m.configurations.map (·.shape) :=
      congrArg (·.configurations) hshape
    have hdesigns : m'.configurations.map (·.design) = m.configurations.map (·.design) :=
      map_eq_map_of_getElem? htree fun _ _ _ _ _ => Configuration.design_of_shape
    refine ⟨hdesigns.trans h.designs, ?_⟩
    intro position c' hc'
    obtain ⟨c, hc, hcshape⟩ := exists_getElem?_of_map_eq htree.symm hc'
    have hvalue : c.value = c'.value := congrArg (·.value) hcshape
    rw [← hvalue]
    exact h.values position c hc
  state _ _ h := ⟨h.designs, h.values⟩
  request speed r link m h :=
    h.of_configurations_eq (StandardRequests.effect speed r link m).configurations_eq

/-- Building keeps the number of configurations. -/
theorem BuiltOf.length_eq {given : List Configuration} {m : Model} (h : m.BuiltOf given) :
    m.configurations.length = given.length := by
  have hlength := congrArg List.length h.designs
  rwa [List.length_map, List.length_map] at hlength

/-- An index past the end leads to position 0. -/
theorem configurationOrFirst?_eq (m : Model) (index : UInt8) :
    m.configurationOrFirst? index =
      m.configurations[if index.toNat < m.configurations.length then index.toNat else 0]? := by
  unfold configurationOrFirst?
  split_ifs with hindex
  · rw [List.getElem?_eq_getElem hindex, Option.some_or]
  · rw [List.getElem?_eq_none (Nat.le_of_not_lt hindex), Option.none_or, List.head?_eq_getElem?]

/-- The descriptor that an index leads to is that of the configuration there. -/
theorem descriptor?_configuration {m : Model} {index : UInt8} {c : Configuration}
    (h : m.configurationOrFirst? index = some c) :
    m.descriptor? DescriptorType.configuration index = some (c.layout m.speed).canonical := by
  show ((m.configurationOrFirst? index).map (·.layout m.speed)).map (·.canonical) = _
  rw [h]
  rfl

/-! ### Selections -/

section

variable {m : Model} {value : UInt8}

/-- A value up to the number of configurations selects the one that comes before the position. -/
theorem selectConfiguration?_of_le {position : Nat} {c : Configuration}
    (hc : m.configurations[position]? = some c) (hvalue : value.toNat = position + 1) :
    m.selectConfiguration? value = some (m.activate position c) := by
  have hposition := (List.getElem?_eq_some_iff.1 hc).1
  have hne : value ≠ 0 := by
    rintro rfl
    exact absurd hvalue (Nat.succ_ne_zero position).symm
  have hselected : m.selectedPosition? value = some position := by
    rw [selectedPosition?, if_neg (by omega), hvalue, Nat.add_sub_cancel]
  rw [selectConfiguration?, if_neg hne, hselected]
  show (m.configurations[position]?).bind (fun c => some (m.activate position c)) = _
  rw [hc, Option.bind_some]

/-- A value above the number of configurations is not zero. -/
theorem ne_zero_of_lt (hvalue : m.configurations.length < value.toNat) : value ≠ 0 := by
  rintro rfl
  exact absurd hvalue (Nat.not_lt_zero _)

/-- A value past the end stands for 1 under the one policy. -/
theorem selectConfiguration?_fallback (hpolicy : m.policy.invalidConfiguration = .fallbackToFirst)
    (hempty : 1 ≤ m.configurations.length) (hvalue : m.configurations.length < value.toNat) :
    m.selectConfiguration? value = m.selectConfiguration? 1 := by
  have hselected : m.selectedPosition? value = m.selectedPosition? 1 := by
    have hone : ¬ m.configurations.length < (1 : UInt8).toNat := Nat.not_lt.2 hempty
    rw [selectedPosition?, if_pos hvalue, hpolicy, selectedPosition?, if_neg hone]
    rfl
  rw [selectConfiguration?, if_neg (ne_zero_of_lt hvalue), hselected, selectConfiguration?,
    if_neg (by decide)]

/-- A value past the end is refused under the other. -/
theorem selectConfiguration?_stall (hpolicy : m.policy.invalidConfiguration = .stall)
    (hvalue : m.configurations.length < value.toNat) : m.selectConfiguration? value = none := by
  rw [selectConfiguration?, if_neg (ne_zero_of_lt hvalue), selectedPosition?, if_pos hvalue,
    hpolicy]
  rfl

end

/-- The active value depends on the shape of a model only. -/
theorem activeValue_shape (m : Model) : m.shape.activeValue = m.activeValue := by
  unfold activeValue activeConfiguration?
  cases hactive : m.active with
  | none => simp only [shape, hactive, Option.bind_none]
  | some position =>
    simp only [shape, hactive, Option.bind_some, List.getElem?_map]
    cases m.configurations[position]? <;> rfl

/-- The configuration that is activated gives the active value. -/
theorem activeValue_activate {m : Model} {position : Nat} {c : Configuration}
    (hc : m.configurations[position]? = some c) :
    (m.activate position c).activeValue = c.value := by
  show ((m.configurations[position]?).elim 0 (·.value)) = c.value
  rw [hc]
  rfl

end Model

/-- The request selects the configuration with a value, or leaves every configuration if that is
0. -/
def Request.Selects (r : Request) (value : UInt8) : Prop :=
  r.IsStandardTo .device ∧ r.code = RequestCode.setConfiguration ∧ r.value.toUInt8 = value

/-- The value of the active configuration that a request leaves which comes in, if it selects a
configuration, or leaves every configuration. -/
def Device.selectionWrite? (x : Device × Request) : Option UInt8 :=
  if x.2.IsStandardTo .device ∧ x.2.code = RequestCode.setConfiguration then
    (x.1.model.selectConfiguration? x.2.value.toUInt8).map (·.activeValue)
  else none

/-- Only one of the standard requests makes a selection. -/
theorem StandardRequests.activeValue_lookup {code : UInt8}
    (hcode : code ≠ RequestCode.setConfiguration) (speed : Speed) (r : Request) (link : Link)
    (m : Model) : (requests.lookup code speed r link m).state.activeValue = m.activeValue := by
  have hfeature : ∀ on, (changeFeature on speed r link m).state.activeValue = m.activeValue := by
    intro on
    rw [changeFeature, Link.state_acknowledge]
    split <;> rfl
  by_cases haddress : code = RequestCode.setAddress
  · have hlookup : requests.lookup code = setAddress := by
      rw [haddress]
      rfl
    rw [hlookup, setAddress, Link.state_acknowledge]
    rfl
  · by_cases hset : code = RequestCode.setFeature
    · rw [hset]
      exact hfeature true
    · by_cases hclear : code = RequestCode.clearFeature
      · rw [hclear]
        exact hfeature false
      · rw [state_lookup haddress hset hclear hcode]

namespace Device

variable {d : Device} {r : Request} {value : UInt8}

/-- All that matters of a selection is its value. -/
theorem handleRequest_of_selects (hd : d.requests = StandardRequests.requests)
    (hr : r.Selects value) :
    d.handleRequest r = d.afterAnswer
      (match d.model.selectConfiguration? value with
      | some m => (d.link.note .setupReceived).acknowledge m
      | none => (d.link.note .setupReceived).stall d.model) := by
  obtain ⟨hstandard, hcode, rfl⟩ := hr
  rw [handleRequest_of_lookup hd hstandard hcode (h := StandardRequests.setConfiguration) rfl]
  rfl

/-- After a request, the active value is the one that the request selected, and else the old one. -/
theorem activeValue_handleRequest (hd : d.requests = StandardRequests.requests) (r : Request) :
    (d.handleRequest r).1.model.activeValue =
      (selectionWrite? (d, r)).getD d.model.activeValue := by
  unfold selectionWrite?
  by_cases hr : r.IsStandardTo .device
  · by_cases hcode : r.code = RequestCode.setConfiguration
    · rw [if_pos ⟨hr, hcode⟩, handleRequest_of_selects hd ⟨hr, hcode, rfl⟩]
      dsimp only [afterAnswer]
      cases d.model.selectConfiguration? r.value.toUInt8 with
      | some m => exact congrArg _ ((d.link.note .setupReceived).state_acknowledge m)
      | none => exact congrArg _ ((d.link.note .setupReceived).state_stall d.model)
    · rw [if_neg fun h => hcode h.2,
        handleRequest_of_target_eq_device (Request.target_eq_device_iff.2 hr), hd]
      exact StandardRequests.activeValue_lookup hcode ..
  · rw [if_neg fun h => hr h.1, Option.getD_none, ← Model.activeValue_shape,
      shape_handleRequest fun h => hr (Request.target_eq_device_iff.1 h), Model.activeValue_shape]

/-- **The host is told the value that the last selection left.** -/
theorem activeValue_after (hd : d.requests = StandardRequests.requests) (actions : List Action) :
    (d.after actions).model.activeValue =
      lastWrite selectionWrite? d.model.activeValue (d.arrivals actions) := by
  refine after_lastWrite (P := fun d' b => d'.model.activeValue = b) ?_ ?_ hd rfl actions
  · rintro d' a b - ha rfl
    obtain ⟨state, hshape⟩ := shape_act_of_request?_eq_none ha d'
    rw [← Model.activeValue_shape, hshape, Model.activeValue_shape]
    rfl
  · rintro d' b r hd' rfl
    exact activeValue_handleRequest hd' r

/-! ### What the host is told -/

/-- Until a request selects a configuration, or leaves every configuration, the host is told the
value. -/
def KeepsTelling (d : Device) (value : UInt8) : Prop :=
  ∀ more, (∀ x ∈ d.arrivals more, selectionWrite? x = none) →
    (d.after more).link.transport.connected = true →
      ∀ r : Request, r.IsStandardTo .device → r.code = RequestCode.getConfiguration →
        (d.after more).Replies r [value]

/-- The active value is always what GET_CONFIGURATION tells. -/
theorem keepsTelling_activeValue (hd : d.requests = StandardRequests.requests) :
    d.KeepsTelling d.model.activeValue := by
  intro more hmore hconnected r hr hcode
  have hactive := activeValue_after hd more
  rw [lastWrite_of_forall_eq_none hmore] at hactive
  rw [← hactive]
  have hd' : (d.after more).requests = StandardRequests.requests := by rw [requests_after, hd]
  have hnoted : ((d.after more).link.note .setupReceived).transport =
      (d.after more).link.transport := rfl
  refine replies_of_outcome (s := (d.after more).model) hnoted hconnected ?_
  rw [handleRequest_of_lookup hd' hr hcode (h := StandardRequests.getConfiguration) rfl]
  rfl

/-- The device acknowledges the request, which leaves it with the model, and from then on the host
is told the value. -/
structure Obeys (d : Device) (r : Request) (m : Model) (value : UInt8) : Prop where
  answer : d.AnswersWith r .acknowledge
  model : (d.handleRequest r).1.model = m
  told : (d.handleRequest r).1.KeepsTelling value

section

variable (hd : d.requests = StandardRequests.requests)
  (hconnected : d.link.transport.connected = true)
include hd hconnected

/-- A SET_CONFIGURATION that can be met is obeyed: the model becomes the selected one. -/
theorem obeys_selection (hr : r.Selects value) {m : Model}
    (hselect : d.model.selectConfiguration? value = some m) : d.Obeys r m m.activeValue := by
  have hnoted : (d.link.note .setupReceived).transport.connected = true := hconnected
  have hhandled : d.handleRequest r =
      d.afterAnswer ((d.link.note .setupReceived).acknowledge m) := by
    rw [handleRequest_of_selects hd hr, hselect]
  have hmodel : (d.handleRequest r).1.model = m := by
    rw [hhandled]
    exact (d.link.note .setupReceived).state_acknowledge m
  refine ⟨?_, hmodel, ?_⟩
  · unfold AnswersWith
    rw [hhandled, Link.acknowledge,
      Link.call_of_connected (r := r) (c := .acknowledge) hnoted trivial]
    exact ⟨rfl, rfl⟩
  · rw [← hmodel]
    exact keepsTelling_activeValue hd

/-- A SET_CONFIGURATION that cannot be met stalls and leaves the model alone. -/
theorem refuses_selection (hr : r.Selects value)
    (hselect : d.model.selectConfiguration? value = none) :
    d.AnswersWith r .stall ∧ (d.handleRequest r).1.model = d.model := by
  have hnoted : (d.link.note .setupReceived).transport.connected = true := hconnected
  have hhandled : d.handleRequest r =
      d.afterAnswer ((d.link.note .setupReceived).stall d.model) := by
    rw [handleRequest_of_selects hd hr, hselect]
  unfold AnswersWith
  rw [hhandled, Link.stall, Link.call_of_connected (r := r) (c := .stall) hnoted trivial]
  exact ⟨⟨rfl, rfl⟩, rfl⟩

end

/-- What the host reads is what it selects, on a device with the given configurations.

* The descriptor at an index is that of the configuration there, or else of the first one, and holds
  a value that selects this very configuration.
* Value 0 leaves every configuration.
* A value past the end does what 1 does, or the device stalls and keeps its model. -/
structure SelectsWhatIsRead (given : List Configuration) (d : Device) : Prop where
  shows : d.Shows d.model
  read : ∀ index : UInt8,
    let position := if index.toNat < given.length then index.toNat else 0
    ∃ g c bytes value, given[position]? = some g ∧
      d.model.configurations[position]? = some c ∧ c.design = g.design ∧
      bytes = (c.layout d.model.speed).canonical ∧
      d.model.descriptor? DescriptorType.configuration index = some bytes ∧
      bytes[5]? = some value ∧ 1 ≤ value.toNat ∧ value.toNat ≤ given.length ∧
      ∀ r : Request, r.Selects value → d.Obeys r
        { d.model with state := .configured, active := some position, routes := c.routes } value
  zero : ∀ r : Request, r.Selects 0 →
    d.Obeys r { d.model with state := .powered, active := none, routes := {} } 0
  fallback : d.model.policy.invalidConfiguration = .fallbackToFirst →
    ∀ (r first : Request) (value : UInt8), given.length < value.toNat → r.Selects value →
      first.Selects 1 → d.handleRequest r = d.handleRequest first
  stall : d.model.policy.invalidConfiguration = .stall →
    ∀ (r : Request) (value : UInt8), given.length < value.toNat → r.Selects value →
      d.AnswersWith r .stall ∧ (d.handleRequest r).1.model = d.model

/-- On a connected device the value of a configuration, which is its position plus one, leads back
to the configuration. -/
theorem selectsWhatIsRead (hd : d.requests = StandardRequests.requests)
    (hconnected : d.link.transport.connected = true) {given : List Configuration}
    (hbuilt : d.model.BuiltOf given) (hgiven : 1 ≤ given.length) :
    d.SelectsWhatIsRead given where
  shows := shows_model (hd ▸ StandardRequests.servesDescriptors)
  read index := by
    intro position
    have hposition : position < given.length := by
      show (if index.toNat < given.length then index.toNat else 0) < given.length
      split
      · assumption
      · exact hgiven
    obtain ⟨c, hc, hdesign⟩ :=
      exists_getElem?_of_map_eq hbuilt.designs (List.getElem?_eq_getElem hposition)
    have hvalue := hbuilt.values position c hc
    have hread : d.model.configurationOrFirst? index = some c := by
      rw [Model.configurationOrFirst?_eq, hbuilt.length_eq]
      exact hc
    refine ⟨_, c, _, c.value, List.getElem?_eq_getElem hposition, hc, hdesign, rfl,
      Model.descriptor?_configuration hread, rfl, by omega, by omega, ?_⟩
    intro r hr
    have hobeys := obeys_selection hd hconnected hr (Model.selectConfiguration?_of_le hc hvalue)
    rwa [Model.activeValue_activate hc] at hobeys
  zero r hr := obeys_selection hd hconnected hr rfl
  fallback hpolicy r first value hvalue hr hfirst := by
    rw [handleRequest_of_selects hd hr, handleRequest_of_selects hd hfirst,
      Model.selectConfiguration?_fallback hpolicy (hbuilt.length_eq ▸ hgiven)
        (hbuilt.length_eq ▸ hvalue)]
  stall hpolicy r value hvalue hr :=
    refuses_selection hd hconnected hr
      (Model.selectConfiguration?_stall hpolicy (hbuilt.length_eq ▸ hvalue))

/-- **What the host reads is what it selects.**  A model can be built of 1 to 255 configurations,
and of no other number.  Whatever happens to a device with such a model, the descriptor that an
index leads to holds a value that selects the configuration whose descriptor it is. -/
theorem selectsWhatIsRead_after (info : DeviceInfo) (given : List Configuration) :
    ((∃ m, Model.build info given = .ok m) ↔ 1 ≤ given.length ∧ given.length ≤ 255) ∧
      ∀ built m : Model, Model.build info given = .ok built →
        m.configurations = built.configurations → ∀ (link : Link) (actions : List Action),
          let d := (ofGadget { model := m } link).after actions
          d.link.transport.connected = true → d.SelectsWhatIsRead given := by
  refine ⟨Model.exists_build_iff info given, ?_⟩
  intro built m hbuild hm link actions d hconnected
  have hbuilt := (Model.builtOf_of_build hbuild).of_configurations_eq hm
  exact selectsWhatIsRead (requests_after _ actions) hconnected
    ((Model.lasting_builtOf given).after (d := ofGadget { model := m } link) hbuilt actions)
    ((Model.exists_build_iff info given).1 ⟨built, hbuild⟩).1

/-- The hypotheses of `Device.selectsWhatIsRead_after` are satisfiable: of two configurations, the
descriptor at index 1 holds value 2, which selects the second one, and 3 is refused under the policy
to stall. -/
theorem selectsWhatIsRead_after_two :
    ∃ built, Model.build {} [{}, { maxPower := 1 }] = .ok built ∧
      let d := (ofGadget
        { model := { built with policy := { invalidConfiguration := .stall } } } {}).after [.connect]
      let select (value : UInt8) : Request := selectionRequest value
      let ask : Request :=
        { requestType := 0x80, code := RequestCode.getConfiguration, length := 1 }
      d.model.descriptor? DescriptorType.configuration 1 = some [9, 2, 9, 0, 0, 2, 0, 0xc0, 1] ∧
        (d.handleRequest (select 2)).1.model.active = some 1 ∧
        (d.handleRequest (select 2)).1.Replies ask [2] ∧
        d.AnswersWith (select 3) .stall := by
  obtain ⟨built, hbuild⟩ : ∃ built, Model.build {} [{}, { maxPower := 1 }] = .ok built := ⟨_, rfl⟩
  refine ⟨built, hbuild, ?_⟩
  intro d select ask
  have h := (selectsWhatIsRead_after {} [{}, { maxPower := 1 }]).2 built
    { built with policy := { invalidConfiguration := .stall } } hbuild rfl {} [.connect] rfl
  obtain ⟨g, c, bytes, value, -, hc, -, rfl, hdescriptor, hvalue, -, -, hselect⟩ := h.read 1
  cases hbuild
  cases hc
  cases hvalue
  have hobeys := hselect (select 2) ⟨by decide, rfl, rfl⟩
  refine ⟨hdescriptor, ?_, ?_, (h.stall rfl (select 3) 3 (by decide) ⟨by decide, rfl, rfl⟩).1⟩
  · rw [hobeys.model]
    rfl
  · exact hobeys.told [] (List.forall_mem_nil _) (by decide +kernel) ask (by decide) rfl

end Device

end UsbGadget
