/-
# What every interface of a tree has

A property of interfaces that their shape determines is kept by all that happens
to a device (`Model.lasting_each`), and one that does not depend on the index of
the name is passed on to the model that is built of them (`Model.each_build`).
So what holds of every interface at the start holds of the interface, the
endpoint and the handler that a request goes to (`Each.interface?`,
`Each.endpoint?`, `Each.handler?`).
-/

import Mathlib.Tactic.SplitIfs
import UsbGadget.Proofs.Session

namespace UsbGadget

namespace Interface

/-- The interface or one of its endpoints carries the handler. -/
def Carries (i : Interface) (kind : HandlerKind) (h : FunctionHandler) : Prop :=
  i.functions.get? kind = some h ∨ ∃ ep ∈ i.endpoints, ep.functions.get? kind = some h

/-- A handler that an interface finds is one that it carries. -/
theorem carries_of_handler? {i : Interface} {kind : HandlerKind} {h : FunctionHandler}
    (hh : i.handler? kind = some h) : i.Carries kind h := by
  rcases Option.or_eq_some_iff.1 hh with hh | ⟨-, hh⟩
  · exact .inl hh
  · obtain ⟨ep, hep, hget⟩ := List.exists_of_findSome?_eq_some hh
    exact .inr ⟨ep, hep, hget⟩

/-- The shape of an interface carries the shapes of the handlers that the interface carries. -/
theorem carries_shape_iff {i : Interface} {kind : HandlerKind} {h' : FunctionHandler} :
    i.shape.Carries kind h' ↔ ∃ h, i.Carries kind h ∧ h.shape = h' := by
  unfold Carries
  constructor
  · rintro (hown | ⟨ep', hep', hget'⟩)
    · rw [shape, Functions.get?_shape] at hown
      obtain ⟨h, hget, hshape⟩ := Option.map_eq_some_iff.1 hown
      exact ⟨h, .inl hget, hshape⟩
    · obtain ⟨ep, hep, rfl⟩ := List.mem_map.1 hep'
      rw [Endpoint.shape, Functions.get?_shape] at hget'
      obtain ⟨h, hget, hshape⟩ := Option.map_eq_some_iff.1 hget'
      exact ⟨h, .inr ⟨ep, hep, hget⟩, hshape⟩
  · rintro ⟨h, hget | ⟨ep, hep, hget⟩, rfl⟩
    · left
      rw [shape, Functions.get?_shape, hget, Option.map_some]
    · right
      refine ⟨ep.shape, List.mem_map_of_mem hep, ?_⟩
      rw [Endpoint.shape, Functions.get?_shape, hget, Option.map_some]

/-- What does not depend on the states of handlers holds of all that an interface carries if it
holds of all that its shape carries. -/
theorem forall_carries_shape_iff {i : Interface} {kind : HandlerKind} {P : FunctionHandler → Prop}
    (hP : ∀ h, P h.shape ↔ P h) :
    (∀ h, i.shape.Carries kind h → P h) ↔ ∀ h, i.Carries kind h → P h := by
  constructor
  · intro hall h hcarries
    exact (hP h).1 (hall h.shape (carries_shape_iff.2 ⟨h, hcarries, rfl⟩))
  · intro hall h' hcarries'
    obtain ⟨h, hcarries, rfl⟩ := carries_shape_iff.1 hcarries'
    exact (hP h).2 (hall h hcarries)

/-- The same for the traffic of the endpoints. -/
theorem forall_traffic_shape_iff {i : Interface} {P : TrafficHandler → Prop}
    (hP : ∀ t, P t.shape ↔ P t) :
    (∀ ep ∈ i.shape.endpoints, ∀ t, ep.traffic = some t → P t) ↔
      ∀ ep ∈ i.endpoints, ∀ t, ep.traffic = some t → P t := by
  rw [shape, List.forall_mem_map]
  refine forall₂_congr fun ep _ => ?_
  rw [Endpoint.shape]
  cases ep.traffic with
  | none => simp only [Option.map_none, reduceCtorEq, false_implies, implies_true]
  | some t => simp only [Option.map_some, Option.some.injEq, forall_eq', hP]

end Interface

namespace Model

/-- Every interface of every configuration has the property. -/
def Each (Q : Interface → Prop) (m : Model) : Prop :=
  ∀ c ∈ m.configurations, ∀ i ∈ c.interfaces, Q i

variable {Q : Interface → Prop} {m : Model}

/-- The active configuration is one of the configurations. -/
theorem mem_configurations_of_active {c : Configuration} (h : m.activeConfiguration? = some c) :
    c ∈ m.configurations := by
  obtain ⟨position, -, hc⟩ := Option.bind_eq_some_iff.1 h
  exact List.mem_of_getElem? hc

/-- A property of every interface holds of the active configuration's interface at a position. -/
theorem Each.interface? (hm : m.Each Q) {position : Nat} {i : Interface}
    (h : m.interface? position = some i) : Q i := by
  obtain ⟨c, hc, hi⟩ := Option.bind_eq_some_iff.1 h
  exact hm c (mem_configurations_of_active hc) i (List.mem_of_getElem? hi)

/-- A property of every interface holds of the one that an endpoint of some number lies in. -/
theorem Each.endpoint? (hm : m.Each Q) {number : UInt8} {ep : Endpoint}
    (h : m.endpoint? number = some ep) : ∃ i, Q i ∧ ep ∈ i.endpoints := by
  obtain ⟨slot, -, h⟩ := Option.bind_eq_some_iff.1 h
  obtain ⟨c, hc, h⟩ := Option.bind_eq_some_iff.1 h
  obtain ⟨i, hi, hep⟩ := Option.bind_eq_some_iff.1 h
  exact ⟨i, hm c (mem_configurations_of_active hc) i (List.mem_of_getElem? hi),
    List.mem_of_getElem? hep⟩

/-- A property of every interface holds of the one that the handler of some kind lies in. -/
theorem Each.handler? (hm : m.Each Q) {kind : HandlerKind} {h : FunctionHandler}
    (hh : m.handler? kind = some h) : ∃ i, Q i ∧ i.Carries kind h := by
  obtain ⟨c, hc, hh⟩ := Option.bind_eq_some_iff.1 hh
  obtain ⟨i, hi, hh⟩ := List.exists_of_findSome?_eq_some hh
  exact ⟨i, hm c (mem_configurations_of_active hc) i hi, Interface.carries_of_handler? hh⟩

/-- A property of shapes holds of every interface of a model when it holds of those of its shape. -/
theorem each_shape_iff (hQ : ∀ i : Interface, Q i.shape ↔ Q i) (m : Model) :
    m.shape.Each Q ↔ m.Each Q := by
  simp only [Each, shape, Configuration.shape, List.forall_mem_map, hQ]

/-- What the shape of an interface determines stays through all that happens to a device, as long
as its own table leaves the tree alone. -/
theorem lasting_each (hQ : ∀ i : Interface, Q i.shape ↔ Q i) {requests : RequestTable Model}
    (hrequests : ∀ code speed r link m,
      (requests.lookup code speed r link m).state.configurations = m.configurations) :
    Device.Lasting requests (Each Q) where
  shape m m' hshape h := by
    rw [← each_shape_iff hQ, hshape, each_shape_iff hQ]
    exact h
  state _ _ h := h
  request speed r link m h := by
    unfold Each
    rw [RequestTable.dispatch, hrequests]
    exact h

/-- A numbered interface is a given one with a string index. -/
theorem mem_nameInterfaces {t : StringTable} {is : List Interface} {i' : Interface}
    (h : i' ∈ (nameInterfaces t is).1) :
    ∃ i ∈ is, ∃ index, i' = { i with stringIndex := index } := by
  induction is generalizing t with
  | nil => cases h
  | cons i is ih =>
    rcases List.mem_cons.1 h with rfl | h
    · exact ⟨i, List.mem_cons_self, _, rfl⟩
    · obtain ⟨j, hj, index, rfl⟩ := ih h
      exact ⟨j, List.mem_cons_of_mem _ hj, index, rfl⟩

/-- The interfaces of a numbered configuration are those of a given one with string indices. -/
theorem mem_numberConfigurations {t : StringTable} {value : Nat} {cs : List Configuration}
    {c' : Configuration} (h : c' ∈ (numberConfigurations t value cs).1) :
    ∃ c ∈ cs, ∀ i' ∈ c'.interfaces, ∃ i ∈ c.interfaces, ∃ index,
      i' = { i with stringIndex := index } := by
  induction cs generalizing t value with
  | nil => cases h
  | cons c cs ih =>
    rcases List.mem_cons.1 h with rfl | h
    · exact ⟨c, List.mem_cons_self, fun _ hi => mem_nameInterfaces hi⟩
    · obtain ⟨d, hd, hinterfaces⟩ := ih h
      exact ⟨d, List.mem_cons_of_mem _ hd, hinterfaces⟩

/-- Building a model changes nothing of its interfaces but the index of the name. -/
theorem each_build (hQ : ∀ (i : Interface) index, Q i → Q { i with stringIndex := index })
    {info : DeviceInfo} {cs : List Configuration} {m : Model} (h : build info cs = .ok m)
    (hcs : ∀ c ∈ cs, ∀ i ∈ c.interfaces, Q i) : m.Each Q := by
  unfold build at h
  split_ifs at h
  cases h
  intro c' hc' i' hi'
  obtain ⟨c, hc, hinterfaces⟩ := mem_numberConfigurations hc'
  obtain ⟨i, hi, index, rfl⟩ := hinterfaces i' hi'
  exact hQ i index (hcs c hc i hi)

end Model

end UsbGadget
