/-
# Names

A device has three names, each configuration and each interface may have one, and
a descriptor says with one byte which string is the name:

| name | descriptor | byte |
| --- | --- | ---: |
| manufacturer, product, serial | device | 14, 15, 16 |
| configuration | configuration | 6 |
| interface | interface | 8 |

The indices are given out while the model is built, in one walk over the tree in
which equal names share an index, and only once the walk is over it is known
which strings the table holds.  What carries the proof is `StringTable.Indexes`:
an index that means a name in one table means it in every longer one
(`Indexes.mono`), and a table only grows (`StringTable.prefix_register`).

A full table gives the last index to any further string.  But it holds only names
of the device (`StringTable.Within`), each of them once, so it has room for a new
one as long as there are not more than 255 (`Within.register`).
-/

import Mathlib.Data.Finset.Card
import UsbGadget.Proofs.Interning
import UsbGadget.Proofs.LengthFields
import UsbGadget.Proofs.Selection

namespace UsbGadget

/-! ### What an index means -/

namespace StringTable

/-- The index means the name: 0 that there is none, and any other the string at its position. -/
def Indexes (t : StringTable) (index : UInt8) : Option String → Prop
  | none => index = 0
  | some s => index ≠ 0 ∧ t.strings[index.toNat - 1]? = some s

variable {t t' : StringTable} {index : UInt8} {name : Option String}

/-- An index keeps its meaning when the table grows. -/
theorem Indexes.mono (h : t.Indexes index name) (hgrows : t.strings <+: t'.strings) :
    t'.Indexes index name := by
  cases name with
  | none => exact h
  | some s =>
    obtain ⟨hne, hs⟩ := h
    obtain ⟨rest, hrest⟩ := hgrows
    refine ⟨hne, ?_⟩
    rw [← hrest, List.getElem?_append_left (List.getElem?_eq_some_iff.1 hs).1, hs]

/-- The index of a name is 0 exactly when there is no name. -/
theorem Indexes.eq_zero_iff (h : t.Indexes index name) : index = 0 ↔ name = none := by
  cases name with
  | none => exact iff_of_true h rfl
  | some s => exact iff_of_false h.1 (Option.some_ne_none s)

/-- An index that means a string finds it. -/
theorem Indexes.get?_eq {s : String} (h : t.Indexes index (some s)) : t.get? index = some s := by
  rw [get?, if_neg h.1, h.2, Option.some_or]

/-- No two names have one index, and no two indices mean one name. -/
theorem Indexes.eq_iff (hnodup : t.strings.Nodup) {index' : UInt8} {name' : Option String}
    (h : t.Indexes index name) (h' : t.Indexes index' name') : index = index' ↔ name = name' := by
  cases name with
  | none =>
    rw [eq_comm (a := index), eq_comm (a := none), ← h'.eq_zero_iff, show index = 0 from h]
  | some s =>
    cases name' with
    | none => rw [show index' = 0 from h', h.eq_zero_iff]
    | some s' =>
      obtain ⟨hne, hs⟩ := h
      obtain ⟨hne', hs'⟩ := h'
      constructor
      · rintro rfl
        rw [← hs, hs']
      · rintro ⟨⟩
        have hposition := (List.getElem?_inj (List.getElem?_eq_some_iff.1 hs).1 hnodup).1
          (hs.trans hs'.symm)
        have hpos : index.toNat ≠ 0 := fun h => hne (UInt8.toNat_inj.1 h)
        have hpos' : index'.toNat ≠ 0 := fun h => hne' (UInt8.toNat_inj.1 h)
        exact UInt8.toNat_inj.1 (by omega)

/-- The strings of the table are among the given ones, each there once. -/
structure Within (names : List String) (t : StringTable) : Prop where
  nodup : t.strings.Nodup
  subset : ∀ s ∈ t.strings, s ∈ names

namespace Within

variable {names : List String}

/-- A table within a list of names holds at most as many strings as there are distinct names. -/
theorem length_le (h : t.Within names) : t.strings.length ≤ names.toFinset.card := by
  rw [← List.toFinset_card_of_nodup h.nodup]
  refine Finset.card_le_card fun s hs => ?_
  exact List.mem_toFinset.2 (h.subset s (List.mem_toFinset.1 hs))

/-- With a new string there are still no more strings than given ones. -/
theorem length_lt (h : t.Within names) {s : String} (hs : s ∈ names) (hnew : s ∉ t.strings) :
    t.strings.length < names.toFinset.card := by
  have hlonger : Within names ⟨s :: t.strings⟩ :=
    ⟨List.nodup_cons.2 ⟨hnew, h.nodup⟩, List.forall_mem_cons.2 ⟨hs, h.subset⟩⟩
  exact hlonger.length_le

variable (hroom : names.toFinset.card ≤ capacity)
include hroom

/-- The index of a position is not 0, and leads back to the position. -/
theorem index_of_lt {n : Nat} (h : n < names.toFinset.card) :
    UInt8.ofNat (n + 1) ≠ 0 ∧ (UInt8.ofNat (n + 1)).toNat - 1 = n := by
  unfold capacity at hroom
  have htoNat : (UInt8.ofNat (n + 1)).toNat = n + 1 :=
    UInt8.toNat_ofNat_of_lt' (by show _ < 256; omega)
  refine ⟨?_, by omega⟩
  intro hzero
  rw [hzero] at htoNat
  exact absurd htoNat.symm (Nat.succ_ne_zero n)

/-- There is room for the given strings, so each of them gets an index that means it. -/
theorem register (h : t.Within names) {s : String} (hs : s ∈ names) :
    (t.register s).2.Within names ∧ (t.register s).2.Indexes (t.register s).1 (some s) := by
  rcases t.register_cases s with ⟨position, hposition, heq⟩ | ⟨hnew, ⟨hlt, heq⟩ | ⟨hfull, -⟩⟩
  · have hlength := (List.getElem?_eq_some_iff.1 hposition).1
    obtain ⟨hne, hsub⟩ := index_of_lt hroom (Nat.lt_of_lt_of_le hlength h.length_le)
    rw [heq]
    exact ⟨h, hne, by rw [hsub, hposition]⟩
  · obtain ⟨hne, hsub⟩ := index_of_lt hroom (h.length_lt hs hnew)
    refine ⟨⟨nodup_register h.nodup s, ?_⟩, ?_⟩
    · rw [heq]
      exact List.forall_mem_append.2 ⟨h.subset, List.forall_mem_singleton.2 hs⟩
    · rw [heq]
      exact ⟨hne, by rw [hsub, List.getElem?_concat_length]⟩
  · have hlength := h.length_lt hs hnew
    omega

/-- Registering a name keeps the table within the names, and the index that comes back is the one of
the name. -/
theorem registerName (h : t.Within names) (name : Option String)
    (hname : ∀ s ∈ name, s ∈ names) :
    (t.registerName name).2.Within names ∧
      (t.registerName name).2.Indexes (t.registerName name).1 name := by
  cases name with
  | none => exact ⟨h, rfl⟩
  | some s => exact h.register hroom (hname s rfl)

end Within

/-- Registering a name only ever adds to the end of the table. -/
theorem prefix_registerName (t : StringTable) (name : Option String) :
    t.strings <+: (t.registerName name).2.strings := by
  cases name with
  | none => exact List.prefix_rfl
  | some s => exact t.prefix_register s

end StringTable

/-! ### The walk that gives indices out -/

/-- The names of a configuration and of its interfaces. -/
def Configuration.names (c : Configuration) : List String :=
  c.name.toList ++ c.interfaces.flatMap (·.name.toList)

/-- The names of a device with an identity and configurations. -/
def DeviceInfo.names (info : DeviceInfo) (given : List Configuration) : List String :=
  info.manufacturer.toList ++ info.product.toList ++ info.serial.toList ++ given.flatMap (·.names)

namespace StringTable

/-- The table has grown from the other one, and holds given strings only, each once. -/
structure Grown (names : List String) (t t' : StringTable) : Prop where
  strings : t.strings <+: t'.strings
  within : t'.Within names

/-- Each interface has the index that means its name. -/
def IndexesAll (t : StringTable) (is : List Interface) : Prop :=
  ∀ i ∈ is, t.Indexes i.stringIndex i.name

/-- The configuration and its interfaces have the indices that mean their names. -/
def IndexesTree (t : StringTable) (c : Configuration) : Prop :=
  t.Indexes c.stringIndex c.name ∧ t.IndexesAll c.interfaces

variable {t t' : StringTable} {names : List String}

/-- The names that a table resolves are resolved by every longer table. -/
theorem IndexesAll.mono {is : List Interface} (h : t.IndexesAll is)
    (hgrows : t.strings <+: t'.strings) : t'.IndexesAll is :=
  fun i hi => (h i hi).mono hgrows

/-- The names of a configuration that a table resolves are resolved by every longer table. -/
theorem IndexesTree.mono {c : Configuration} (h : t.IndexesTree c)
    (hgrows : t.strings <+: t'.strings) : t'.IndexesTree c :=
  ⟨h.1.mono hgrows, h.2.mono hgrows⟩

section

variable (hroom : names.toFinset.card ≤ capacity)
include hroom

/-- Numbering interfaces keeps the table within the names, and it resolves all their names. -/
theorem Within.nameInterfaces {is : List Interface} (h : t.Within names)
    (his : ∀ s ∈ is.flatMap (·.name.toList), s ∈ names) :
    Grown names t (Model.nameInterfaces t is).2 ∧
      (Model.nameInterfaces t is).2.IndexesAll (Model.nameInterfaces t is).1 := by
  induction is generalizing t with
  | nil => exact ⟨⟨List.prefix_rfl, h⟩, List.forall_mem_nil _⟩
  | cons i is ih =>
    rw [List.flatMap_cons, List.forall_mem_append] at his
    obtain ⟨hwithin, hindex⟩ :=
      h.registerName hroom i.name fun s hs => his.1 s (Option.mem_toList.2 hs)
    obtain ⟨hgrown, hrest⟩ := ih hwithin his.2
    -- What follows only adds to the table that the first index is from.
    refine ⟨⟨(t.prefix_registerName i.name).trans hgrown.strings, hgrown.within⟩, ?_⟩
    exact List.forall_mem_cons.2 ⟨hindex.mono hgrown.strings, hrest⟩

/-- Numbering configurations keeps the table within the names, and the table resolves all their
names. -/
theorem Within.numberConfigurations {cs : List Configuration} (h : t.Within names) (value : Nat)
    (hcs : ∀ s ∈ cs.flatMap (·.names), s ∈ names) :
    Grown names t (Model.numberConfigurations t value cs).2 ∧
      ∀ c ∈ (Model.numberConfigurations t value cs).1,
        (Model.numberConfigurations t value cs).2.IndexesTree c := by
  induction cs generalizing t value with
  | nil => exact ⟨⟨List.prefix_rfl, h⟩, List.forall_mem_nil _⟩
  | cons c cs ih =>
    rw [List.flatMap_cons, List.forall_mem_append, Configuration.names, List.forall_mem_append]
      at hcs
    obtain ⟨⟨hname, hinterfaces⟩, hcs⟩ := hcs
    obtain ⟨hwithin, hindex⟩ :=
      h.registerName hroom c.name fun s hs => hname s (Option.mem_toList.2 hs)
    obtain ⟨hfirst, hall⟩ := hwithin.nameInterfaces hroom hinterfaces
    obtain ⟨hgrown, hrest⟩ := ih hfirst.within (value + 1) hcs
    refine ⟨⟨?_, hgrown.within⟩, List.forall_mem_cons.2 ⟨?_, hrest⟩⟩
    · exact ((t.prefix_registerName c.name).trans hfirst.strings).trans hgrown.strings
    · exact IndexesTree.mono ⟨hindex.mono hfirst.strings, hall⟩ hgrown.strings

end
end StringTable

namespace Model

/-- The indices of a model mean its names. -/
structure Named (m : Model) : Prop where
  nodup : m.strings.strings.Nodup
  manufacturer : m.strings.Indexes m.manufacturerIndex m.info.manufacturer
  product : m.strings.Indexes m.productIndex m.info.product
  serial : m.strings.Indexes m.serialIndex m.info.serial
  tree : ∀ c ∈ m.configurations, m.strings.IndexesTree c

/-- If there is room for all names, building a model gives each of them the index that means it. -/
theorem named_of_build {info : DeviceInfo} {given : List Configuration} {m : Model}
    (h : build info given = .ok m)
    (hroom : (info.names given).toFinset.card ≤ StringTable.capacity) : m.Named := by
  obtain ⟨⟨⟨hmanufacturer, hproduct⟩, hserial⟩, hgiven⟩ :
      (((∀ s ∈ info.manufacturer.toList, s ∈ info.names given) ∧
        ∀ s ∈ info.product.toList, s ∈ info.names given) ∧
          ∀ s ∈ info.serial.toList, s ∈ info.names given) ∧
            ∀ s ∈ given.flatMap (·.names), s ∈ info.names given := by
    rw [← List.forall_mem_append, ← List.forall_mem_append, ← List.forall_mem_append]
    exact fun s hs => hs
  have hempty : StringTable.Within (info.names given) {} := ⟨List.nodup_nil, List.forall_mem_nil _⟩
  obtain ⟨hwithin₁, hindex₁⟩ := hempty.registerName hroom info.manufacturer
    fun s hs => hmanufacturer s (Option.mem_toList.2 hs)
  obtain ⟨hwithin₂, hindex₂⟩ := hwithin₁.registerName hroom info.product
    fun s hs => hproduct s (Option.mem_toList.2 hs)
  obtain ⟨hwithin₃, hindex₃⟩ := hwithin₂.registerName hroom info.serial
    fun s hs => hserial s (Option.mem_toList.2 hs)
  obtain ⟨hgrown, htree⟩ := hwithin₃.numberConfigurations hroom 1 hgiven
  unfold build at h
  split_ifs at h
  cases h
  refine ⟨hgrown.within.nodup, ?_, ?_, hindex₃.mono hgrown.strings, htree⟩
  · exact hindex₁.mono (((StringTable.prefix_registerName _ _).trans
      (StringTable.prefix_registerName _ _)).trans hgrown.strings)
  · exact hindex₂.mono ((StringTable.prefix_registerName _ _).trans hgrown.strings)

/-- Registering further strings changes no meaning. -/
theorem Named.registerString {m : Model} (h : m.Named) (s : String) :
    (m.registerString s).2.Named where
  nodup := StringTable.nodup_register h.nodup s
  manufacturer := h.manufacturer.mono (m.strings.prefix_register s)
  product := h.product.mono (m.strings.prefix_register s)
  serial := h.serial.mono (m.strings.prefix_register s)
  tree c hc := (h.tree c hc).mono (m.strings.prefix_register s)

/-- The names of a model stay resolved, whatever strings are registered later. -/
theorem named_of_later {built : Model} (h : built.Named) (later : List String) :
    (later.foldl (fun m s => (m.registerString s).2) built).Named := by
  induction later generalizing built with
  | nil => exact h
  | cons s later ih => exact ih (h.registerString s)

/-- Strings are all that is added when more of them are registered. -/
theorem info_and_configurations_of_later (built : Model) (later : List String) :
    let m := later.foldl (fun m s => (m.registerString s).2) built
    m.info = built.info ∧ m.configurations = built.configurations := by
  induction later generalizing built with
  | nil => exact ⟨rfl, rfl⟩
  | cons s later ih => exact ih (built.registerString s).2

end Model

/-! ### What descriptors say of names -/

/-- Where a device has names. -/
inductive NamePlace where
  | manufacturer
  | product
  | serial
  | configuration (position : Nat)
  | interface (position n : Nat)

/-- The name at a place, which may be absent, if a device with the identity and the configurations
has the place. -/
def NamePlace.name? (info : DeviceInfo) (given : List Configuration) :
    NamePlace → Option (Option String)
  | manufacturer => some info.manufacturer
  | product => some info.product
  | serial => some info.serial
  | configuration position => (given[position]?).map (·.name)
  | interface position n => (given[position]?).bind fun c => (c.interfaces[n]?).map (·.name)

/-- The byte that a descriptor of the model has for the name at a place. -/
def Model.nameByte? (m : Model) : NamePlace → Option UInt8
  | .manufacturer => (m.descriptor? DescriptorType.device 0).bind (·[14]?)
  | .product => (m.descriptor? DescriptorType.device 0).bind (·[15]?)
  | .serial => (m.descriptor? DescriptorType.device 0).bind (·[16]?)
  | .configuration position =>
    (m.descriptor? DescriptorType.configuration (UInt8.ofNat position)).bind (·[6]?)
  | .interface position n =>
    (m.configurations[position]?).bind fun c =>
      (m.descriptor? DescriptorType.configuration (UInt8.ofNat position)).bind
        (·[c.interfaceOffset m.speed n + 8]?)

/-- Configurations of one design have the same names. -/
theorem Configuration.name_of_design {c g : Configuration} (h : c.design = g.design) :
    c.name = g.name ∧ ∀ (n : Nat) (i : Interface), g.interfaces[n]? = some i →
      ∃ i' : Interface, c.interfaces[n]? = some i' ∧ i'.name = i.name := by
  have hname : c.design.name = g.design.name := congrArg (·.name) h
  have hinterfaces : c.interfaces.map (·.design) = g.interfaces.map (·.design) :=
    congrArg (·.interfaces) h
  refine ⟨hname, ?_⟩
  intro n i hi
  obtain ⟨i', hi', hdesign⟩ := exists_getElem?_of_map_eq hinterfaces hi
  have hiname : i'.design.name = i.design.name := congrArg (·.name) hdesign
  exact ⟨i', hi', hiname⟩

/-- Byte 8 of the header of an interface is the index of its name. -/
theorem Configuration.getElem?_interfaceOffset {c : Configuration} {speed : Speed} {n : Nat}
    {i : Interface} (h : c.interfaces[n]? = some i) :
    (c.layout speed).canonical[c.interfaceOffset speed n + 8]? = some i.stringIndex := by
  obtain ⟨rest, hrest⟩ := c.drop_encoded .own speed h
  have hencoded : c.encoded .own speed = (c.layout speed).canonical := by
    rw [encoded, Layout.emit_disabled]
    rfl
  rw [← hencoded, ← List.getElem?_drop, hrest]
  rfl

namespace Model

/-- At every place is the index that means the name there. -/
theorem Named.exists_nameByte? {m : Model} (h : m.Named) {given : List Configuration}
    (hbuilt : m.BuiltOf given) (hmany : given.length ≤ 255) {place : NamePlace}
    {name : Option String} (hname : place.name? m.info given = some name) :
    ∃ index, m.nameByte? place = some index ∧ m.strings.Indexes index name := by
  have hconfiguration : ∀ {position : Nat} {g : Configuration}, given[position]? = some g →
      ∃ c, m.configurations[position]? = some c ∧ c.design = g.design ∧
        m.descriptor? DescriptorType.configuration (UInt8.ofNat position) =
          some (c.layout m.speed).canonical := by
    intro position g hg
    obtain ⟨c, hc, hdesign⟩ := exists_getElem?_of_map_eq hbuilt.designs hg
    have hposition := (List.getElem?_eq_some_iff.1 hg).1
    have htoNat : (UInt8.ofNat position).toNat = position :=
      UInt8.toNat_ofNat_of_lt' (by show _ < 256; omega)
    refine ⟨c, hc, hdesign, descriptor?_configuration ?_⟩
    rw [configurationOrFirst?, htoNat, hc, Option.some_or]
  cases place with
  | manufacturer =>
    cases hname
    exact ⟨_, rfl, h.manufacturer⟩
  | product =>
    cases hname
    exact ⟨_, rfl, h.product⟩
  | serial =>
    cases hname
    exact ⟨_, rfl, h.serial⟩
  | configuration position =>
    obtain ⟨g, hg, rfl⟩ := Option.map_eq_some_iff.1 hname
    obtain ⟨c, hc, hdesign, hdescriptor⟩ := hconfiguration hg
    refine ⟨c.stringIndex, ?_, ?_⟩
    · rw [nameByte?, hdescriptor, Option.bind_some]
      rfl
    · rw [← (Configuration.name_of_design hdesign).1]
      exact (h.tree c (List.mem_of_getElem? hc)).1
  | interface position n =>
    obtain ⟨g, hg, hname⟩ := Option.bind_eq_some_iff.1 hname
    obtain ⟨i, hi, rfl⟩ := Option.map_eq_some_iff.1 hname
    obtain ⟨c, hc, hdesign, hdescriptor⟩ := hconfiguration hg
    obtain ⟨i', hi', hiname⟩ := (Configuration.name_of_design hdesign).2 n i hi
    refine ⟨i'.stringIndex, ?_, ?_⟩
    · rw [nameByte?, hc, Option.bind_some, hdescriptor, Option.bind_some,
        Configuration.getElem?_interfaceOffset hi']
    · rw [← hiname]
      exact (h.tree c (List.mem_of_getElem? hc)).2 i' (List.mem_of_getElem? hi')

/-- The string descriptor at an index that means a string is that of the string. -/
theorem descriptor?_string {m : Model} {index : UInt8} {s : String}
    (h : m.strings.Indexes index (some s)) :
    m.descriptor? DescriptorType.string index = some (StringDescriptor.ofText s) := by
  show (m.stringLayout? index).map (·.canonical) = _
  rw [stringLayout?, if_neg h.1, h.get?_eq]
  rfl

/-- **Every index that a descriptor has for a name leads to the name.**  A model is built with not
more than 255 different names, and then further strings are registered, however many.  Where a name
is absent there is 0; where there is a name, the string descriptor at the index is that of the name;
and two places have one index just if they have the same name, or none.  These are the descriptors
that a host gets. -/
theorem resolvesNames_of_build {info : DeviceInfo} {given : List Configuration} {built : Model}
    (hbuild : build info given = .ok built) (hroom : (info.names given).toFinset.card ≤ 255)
    (later : List String) :
    let m := later.foldl (fun m s => (m.registerString s).2) built
    (∀ link, (Device.ofGadget { model := m } link).Shows m) ∧
      ∀ (place : NamePlace) (name : Option String), place.name? info given = some name →
        ∃ index, m.nameByte? place = some index ∧ (index = 0 ↔ name = none) ∧
          (∀ s, name = some s →
            m.descriptor? DescriptorType.string index = some (StringDescriptor.ofText s)) ∧
          ∀ (other : NamePlace) (name' : Option String), other.name? info given = some name' →
            (m.nameByte? other = some index ↔ name' = name) := by
  intro m
  refine ⟨fun link => Device.shows_model StandardRequests.servesDescriptors, ?_⟩
  intro place name hname
  have hnamed : m.Named := named_of_later (named_of_build hbuild hroom) later
  obtain ⟨hinfo, hconfigurations⟩ := info_and_configurations_of_later built later
  have hbuiltInfo : built.info = info := by
    unfold build at hbuild
    split_ifs at hbuild
    cases hbuild
    rfl
  have hbuilt := (builtOf_of_build hbuild).of_configurations_eq hconfigurations
  have hmany := ((exists_build_iff info given).1 ⟨built, hbuild⟩).2
  obtain rfl : m.info = info := hinfo.trans hbuiltInfo
  obtain ⟨index, hindex, hmeans⟩ := hnamed.exists_nameByte? hbuilt hmany hname
  refine ⟨index, hindex, hmeans.eq_zero_iff, ?_, ?_⟩
  · rintro s rfl
    exact descriptor?_string hmeans
  · intro other name' hname'
    obtain ⟨index', hindex', hmeans'⟩ := hnamed.exists_nameByte? hbuilt hmany hname'
    rw [hindex', Option.some.injEq]
    exact hmeans'.eq_iff hnamed.nodup hmeans

/-- The hypotheses of `Model.resolvesNames_of_build` are satisfiable: a configuration shares the
index of the manufacturer, the interface has its own, and there is no serial number. -/
theorem resolvesNames_of_build_shared :
    ∃ built, build { manufacturer := some "Maker" }
        [{ name := some "Maker",
           interfaces := [{ number := 0, classCode := 3, name := some "Keys" }] }] = .ok built ∧
      let m := ["Maker", "Thing"].foldl (fun m s => (m.registerString s).2) built
      m.nameByte? .serial = some 0 ∧
        m.nameByte? .manufacturer = m.nameByte? (.configuration 0) ∧
        ∃ index, m.nameByte? (.interface 0 0) = some index ∧
          m.descriptor? DescriptorType.string index =
            some [10, 3, 0x4b, 0, 0x65, 0, 0x79, 0, 0x73, 0] := by
  obtain ⟨built, hbuild⟩ : ∃ built, build { manufacturer := some "Maker" }
      [{ name := some "Maker",
         interfaces := [{ number := 0, classCode := 3, name := some "Keys" }] }] = .ok built :=
    ⟨_, rfl⟩
  refine ⟨built, hbuild, ?_⟩
  intro m
  have h := (resolvesNames_of_build hbuild (by decide +kernel) ["Maker", "Thing"]).2
  obtain ⟨zero, hserial, hzero, -⟩ := h .serial none rfl
  obtain ⟨first, hmanufacturer, -, -, hshared⟩ := h .manufacturer (some "Maker") rfl
  obtain ⟨index, hinterface, -, hstring, -⟩ := h (.interface 0 0) (some "Keys") rfl
  refine ⟨?_, ?_, index, hinterface, (hstring "Keys" rfl).trans (by decide +kernel)⟩
  · rw [hserial, hzero.2 rfl]
  · rw [hmanufacturer, (hshared (.configuration 0) (some "Maker") rfl).2 rfl]

end Model
end UsbGadget
