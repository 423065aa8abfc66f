/-
# The two encodings of a configuration

A configuration is described twice: by its own descriptor and by the one for the
speed that the device does not run at.  Both have the same plan up to the stage
and the type (`plan_eq`).  When nothing is replaced, their bytes are the
descriptors of the tree one after the other (`canonical_plan`):

| part of the tree | descriptors, in this order |
| --- | --- |
| configuration | header, then the interfaces |
| interface | header, class descriptor if there is one, class-specific ones, then the endpoints |
| endpoint | header, then the class-specific ones |
-/

import UsbGadget.Configuration

namespace UsbGadget

namespace Layout

/-- The canonical bytes of some layouts are those of each, one after the other. -/
theorem canonicalAll_eq_flatMap (ls : List Layout) : canonicalAll ls = ls.flatMap canonical := by
  induction ls with
  | nil => rfl
  | cons l ls ih => rw [canonicalAll, List.flatMap_cons, ih]

/-- Plans whose bytes are descriptors one after the other give, one after the other, the same. -/
theorem canonicalAll_map {α : Type} {f : α → Layout} {g : α → List Bytes}
    (h : ∀ a, (f a).canonical = (g a).flatten) (as : List α) :
    canonicalAll (as.map f) = (as.flatMap g).flatten := by
  rw [canonicalAll_eq_flatMap, List.flatMap_map, List.flatMap_def, List.flatMap_def,
    List.flatten_flatten, List.map_map]
  exact congrArg List.flatten (List.map_congr_left fun a _ => h a)

/-- The bytes of one plan stand behind those of all plans before it. -/
theorem canonicalAll_split {α : Type} {f : α → Layout} {as : List α} {n : Nat} {a : α}
    (h : as[n]? = some a) :
    canonicalAll (as.map f) = canonicalAll ((as.take n).map f) ++
      ((f a).canonical ++ canonicalAll ((as.drop (n + 1)).map f)) := by
  obtain ⟨hn, rfl⟩ := List.getElem?_eq_some_iff.1 h
  conv => lhs; rw [← List.take_append_drop n as, List.drop_eq_getElem_cons hn]
  rw [List.map_append, List.map_cons, canonicalAll_append, canonicalAll]

end Layout

/-- The descriptors of an endpoint: its own and the class-specific ones. -/
def Endpoint.descriptors (ep : Endpoint) (speed : Speed) : List Bytes :=
  ep.header speed :: ep.classSpecific.map (·.bytes DescriptorType.classSpecificEndpoint)

/-- The canonical bytes of an endpoint are its descriptors, one after the other. -/
theorem Endpoint.canonical_layout (ep : Endpoint) (speed : Speed) :
    (ep.layout speed).canonical = (ep.descriptors speed).flatten := by
  have hcs : Layout.canonicalAll (ep.classSpecific.map (·.endpointLayout)) =
      (ep.classSpecific.map (·.bytes DescriptorType.classSpecificEndpoint)).flatten := by
    rw [Layout.canonicalAll_eq_flatMap, List.flatMap_map, List.flatMap_def]
    rfl
  rw [layout, Layout.canonical, hcs, descriptors, List.flatten_cons]

namespace Interface

/-- The class descriptor right behind the header, if the class has one there and it is given. -/
def legacyDescriptor? (i : Interface) : Option Bytes :=
  (InterfaceClass.legacyDescriptor? i.classCode).bind i.state.descriptors.find?

/-- The legacy bytes of an interface are those of its legacy descriptor, if it has one. -/
theorem legacyDescriptor_eq (i : Interface) :
    i.legacyDescriptor = i.legacyDescriptor?.toList.flatten := by
  rw [legacyDescriptor, ← legacyDescriptor?]
  cases i.legacyDescriptor? with
  | none => rfl
  | some bytes => exact (List.append_nil bytes).symm

/-- The descriptors of an interface and its endpoints. -/
def descriptors (i : Interface) (speed : Speed) : List Bytes :=
  i.header :: (i.legacyDescriptor?.toList ++
    i.classSpecific.map (·.bytes DescriptorType.classSpecificInterface) ++
    i.endpoints.flatMap (·.descriptors speed))

/-- The canonical bytes of an interface are its descriptors, one after the other. -/
theorem canonical_layout (i : Interface) (speed : Speed) :
    (i.layout speed).canonical = (i.descriptors speed).flatten := by
  have hcs : Layout.canonicalAll (i.classSpecific.map (·.interfaceLayout)) =
      (i.classSpecific.map (·.bytes DescriptorType.classSpecificInterface)).flatten := by
    rw [Layout.canonicalAll_eq_flatMap, List.flatMap_map, List.flatMap_def]
    rfl
  rw [layout, Layout.canonical, Layout.canonicalAll_append, hcs,
    Layout.canonicalAll_map fun ep : Endpoint => ep.canonical_layout speed, descriptors,
    List.flatten_cons, List.flatten_append, List.flatten_append, legacyDescriptor_eq]
  simp only [List.append_assoc]

end Interface

namespace Configuration

/-- Which of its two descriptors a configuration is described by. -/
inductive Encoding where
  | own
  | otherSpeed
  deriving DecidableEq, Repr

/-- The type of the descriptor. -/
def Encoding.type : Encoding → UInt8
  | own => DescriptorType.configuration
  | otherSpeed => DescriptorType.otherSpeedConfiguration

/-- The stage that the descriptor is built in. -/
def Encoding.stage : Encoding → Stage
  | own => .configurationDescriptor
  | otherSpeed => .otherSpeedConfigurationDescriptor

/-- The plan of one of the two descriptors. -/
def plan (c : Configuration) : Encoding → Speed → Layout
  | .own => c.layout
  | .otherSpeed => c.otherSpeedLayout

/-- The plan of a configuration has one part for each interface. -/
theorem plan_eq (c : Configuration) (e : Encoding) (speed : Speed) :
    c.plan e speed = .node e.stage (c.frame e.type) (c.interfaces.map (·.layout speed)) := by
  cases e <;> rfl

/-- The nine bytes of the header, given the length of the whole. -/
def header (c : Configuration) (e : Encoding) (total : Nat) : Bytes :=
  [9, e.type] ++ Bytes.ofWord (Bytes.totalWord total) ++
    [Bytes.countByte c.interfaces.length, c.value, c.stringIndex, c.attributes, c.maxPower]

/-- The header of a configuration has nine bytes, whatever they are. -/
theorem length_header (c : Configuration) (e : Encoding) (total : Nat) :
    (c.header e total).length = 9 := rfl

/-- The frame of a configuration is its header, with the total filled in, and the body. -/
theorem frame_eq (c : Configuration) (e : Encoding) (body : Bytes) :
    c.frame e.type body = c.header e (9 + body.length) ++ body := rfl

/-- The descriptors of a configuration and all that it holds. -/
def descriptors (c : Configuration) (e : Encoding) (speed : Speed) : List Bytes :=
  let body := c.interfaces.flatMap (·.descriptors speed)
  c.header e (9 + body.flatten.length) :: body

/-- **The canonical bytes are the descriptors of the tree, one after the other.** -/
theorem canonical_plan (c : Configuration) (e : Encoding) (speed : Speed) :
    (c.plan e speed).canonical = (c.descriptors e speed).flatten := by
  rw [plan_eq, Layout.canonical,
    Layout.canonicalAll_map fun i : Interface => i.canonical_layout speed, frame_eq, descriptors,
    List.flatten_cons]

end Configuration
end UsbGadget
