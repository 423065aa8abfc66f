/-
# The first handler of a kind

Class and vendor requests go to a handler of their kind, whatever their
direction, recipient and index.  Of the handlers that a configuration holds the
first one gets them, in the order that takes its interfaces one by one, and of
each interface its own handler, if it has one, and otherwise those of its
endpoints (`Configuration.offered`).  Finding that handler and letting it serve
are two searches; `Configuration.offers_iff` says that they agree.

So each request is served by one handler, or refused if there is none
(`Device.firstWins`).  What a handler keeps after a run is what the requests make
of it that came in while it was the first of the active configuration
(`Device.deliveries`, `Device.firstWins_after`): leaving its configuration,
selecting another one and coming back change nothing.
-/

import UsbGadget.Proofs.Arrivals
import UsbGadget.Reaction

namespace UsbGadget

/-- The kind of the handler that a request goes to, if it is a class or a vendor request. -/
def Request.handlerKind? (r : Request) : Option HandlerKind :=
  match r.kind with
  | .classSpecific => some .classSpecific
  | .vendorSpecific => some .vendorSpecific
  | _ => none

/-- Class and vendor requests, and no others, address the handler of their kind. -/
theorem Request.addresses_function_iff {r : Request} {kind : HandlerKind} {policy : Policy} :
    r.Addresses policy (.function kind) ↔ r.handlerKind? = some kind := by
  unfold handlerKind?
  constructor
  · intro h
    cases h with
    | classSpecific hkind => rw [hkind]
    | vendorSpecific hkind => rw [hkind]
  · intro h
    cases hkind : r.kind with
    | classSpecific =>
      rw [hkind] at h
      cases h
      exact .classSpecific hkind
    | vendorSpecific =>
      rw [hkind] at h
      cases h
      exact .vendorSpecific hkind
    | standard =>
      rw [hkind] at h
      cases h
    | reserved =>
      rw [hkind] at h
      cases h

/-! ### The order of the handlers -/

/-- The handlers of a kind that an interface offers, in order: its own, if it has one, and otherwise
those of its endpoints. -/
def Interface.offered (i : Interface) (kind : HandlerKind) :
    List (Interface.Part × FunctionHandler) :=
  match i.functions.get? kind with
  | some h => [(.handler kind, h)]
  | none => i.endpoints.zipIdx.filterMap fun (ep, place) =>
    (ep.functions.get? kind).map fun h => (.endpoint place (.handler kind), h)

/-- The handlers of a kind that a configuration offers, in the order of its interfaces. -/
def Configuration.offered (c : Configuration) (kind : HandlerKind) :
    List ((Nat × Interface.Part) × FunctionHandler) :=
  c.interfaces.zipIdx.flatMap fun (i, n) => (i.offered kind).map fun (part, h) => ((n, part), h)

/-- No interface and no endpoint has a handler of the kind. -/
def Configuration.Lacks (c : Configuration) (kind : HandlerKind) : Prop :=
  ∀ i ∈ c.interfaces, i.functions.get? kind = none ∧
    ∀ ep ∈ i.endpoints, ep.functions.get? kind = none

/-- What is found first at a position is found first among the numbered elements. -/
theorem findSome?_zipIdx_of_first {α β : Type} {as : List α} {f : α × Nat → Option β} {n : Nat}
    {a : α} {b : β} (ha : as[n]? = some a) (hb : f (a, n) = some b)
    (hfirst : ∀ earlier ∈ as.take n, ∀ m, f (earlier, m) = none) :
    as.zipIdx.findSome? f = some b := by
  obtain ⟨hn, hget⟩ := List.getElem?_eq_some_iff.1 ha
  have hsplit : as = as.take n ++ a :: as.drop (n + 1) := by
    rw [← hget, ← List.drop_eq_getElem_cons hn, List.take_append_drop]
  have hnone : (as.take n).zipIdx.findSome? f = none := by
    rw [List.findSome?_eq_none_iff]
    intro x hx
    exact hfirst x.1 (List.fst_mem_of_mem_zipIdx hx) x.2
  rw [hsplit, List.zipIdx_append, List.zipIdx_cons, Nat.zero_add, List.length_take_of_le hn.le,
    List.findSome?_append, hnone, Option.none_or, List.findSome?_cons, hb]

namespace Interface

variable {i : Interface} {kind : HandlerKind}

/-- An interface offers nothing of a kind exactly when neither it nor an endpoint of it has a
handler. -/
theorem offered_eq_nil_iff : i.offered kind = [] ↔
    i.functions.get? kind = none ∧ ∀ ep ∈ i.endpoints, ep.functions.get? kind = none := by
  unfold offered
  cases hown : i.functions.get? kind with
  | some h => exact iff_of_false (List.cons_ne_nil _ _) fun hnone => nomatch hnone.1
  | none =>
    rw [List.filterMap_eq_nil_iff]
    constructor
    · intro hnil
      refine ⟨rfl, fun ep hep => ?_⟩
      obtain ⟨place, hplace⟩ := List.mem_iff_getElem?.1 hep
      exact Option.map_eq_none_iff.1 (hnil (ep, place) (List.mk_mem_zipIdx_iff_getElem?.2 hplace))
    · rintro ⟨-, hnone⟩ ⟨ep, place⟩ hmem
      exact Option.map_eq_none_iff.2 (hnone ep (List.fst_mem_of_mem_zipIdx hmem))

/-- The handler that an interface offers is the first of its candidates. -/
theorem Offers.head?_offered {part : Interface.Part} {h : FunctionHandler}
    (hoffers : i.Offers kind part h) : (i.offered kind).head? = some (part, h) := by
  unfold offered
  cases hoffers with
  | own hown =>
    rw [hown]
    rfl
  | @endpoint place ep _ hnone hep hget hfirst =>
    rw [hnone]
    dsimp only
    rw [List.head?_filterMap]
    refine findSome?_zipIdx_of_first hep ?_ fun earlier hearlier m => ?_
    · dsimp only
      rw [hget, Option.map_some]
    · exact Option.map_eq_none_iff.2 (hfirst earlier hearlier)

/-- The handler that an interface offers is the state of the part that holds it. -/
theorem Offers.stateOf?_eq {part : Interface.Part} {h : FunctionHandler}
    (hoffers : i.Offers kind part h) : i.stateOf? part = some (.function h) := by
  cases hoffers with
  | own hown => exact congrArg (Option.map EntityState.function) hown
  | @endpoint place ep _ hnone hep hget hfirst =>
    dsimp only [stateOf?, partOf?]
    rw [hep, Option.bind_some]
    exact congrArg (Option.map EntityState.function) hget

end Interface

namespace Configuration

variable {c : Configuration} {kind : HandlerKind}

/-- There is nothing to choose from just if no interface and no endpoint has a handler. -/
theorem offered_eq_nil_iff : c.offered kind = [] ↔ c.Lacks kind := by
  unfold offered
  rw [List.flatMap_eq_nil_iff]
  constructor
  · intro hnil i hi
    obtain ⟨n, hn⟩ := List.mem_iff_getElem?.1 hi
    have hmap := hnil (i, n) (List.mk_mem_zipIdx_iff_getElem?.2 hn)
    exact Interface.offered_eq_nil_iff.1 (List.map_eq_nil_iff.1 hmap)
  · rintro hlacks ⟨i, n⟩ hmem
    exact List.map_eq_nil_iff.2
      (Interface.offered_eq_nil_iff.2 (hlacks i (List.fst_mem_of_mem_zipIdx hmem)))

/-- A configuration finds no handler exactly when it lacks one. -/
theorem handler?_eq_none_iff_lacks : c.handler? kind = none ↔ c.Lacks kind := by
  rw [handler?, List.findSome?_eq_none_iff]
  refine forall₂_congr fun i _ => ?_
  rw [Interface.handler?, Option.or_eq_none_iff, List.findSome?_eq_none_iff]

/-- The handler that a configuration offers is the first of all its candidates. -/
theorem Offers.head?_offered {n : Nat} {part : Interface.Part} {h : FunctionHandler}
    (hoffers : c.Offers kind n part h) : (c.offered kind).head? = some ((n, part), h) := by
  obtain ⟨i, hi, hpart⟩ := hoffers.offers
  unfold offered
  rw [List.head?_flatMap]
  refine findSome?_zipIdx_of_first hi ?_ fun earlier hearlier m => ?_
  · dsimp only
    rw [List.head?_map, hpart.head?_offered, Option.map_some]
  · have hnone := Interface.handler?_eq_none_iff.2 (hoffers.first earlier hearlier)
    rw [Interface.handler?, Option.or_eq_none_iff, List.findSome?_eq_none_iff] at hnone
    dsimp only
    rw [Interface.offered_eq_nil_iff.2 hnone]
    rfl

/-- The handler that a configuration offers is the one it finds. -/
theorem Offers.handler?_eq {n : Nat} {part : Interface.Part} {h : FunctionHandler}
    (hoffers : c.Offers kind n part h) : c.handler? kind = some h := by
  have hhead := hoffers.head?_offered
  cases hh : c.handler? kind with
  | none =>
    rw [offered_eq_nil_iff.2 (handler?_eq_none_iff_lacks.1 hh)] at hhead
    cases hhead
  | some h' =>
    obtain ⟨n', part', hoffers'⟩ := exists_offers hh
    cases hoffers'.head?_offered.symm.trans hhead
    rfl

/-- **The handler that requests go to is the first in order.** -/
theorem offers_iff {n : Nat} {part : Interface.Part} {h : FunctionHandler} :
    c.Offers kind n part h ↔ (c.offered kind).head? = some ((n, part), h) := by
  refine ⟨Offers.head?_offered, fun hhead => ?_⟩
  have hne : c.handler? kind ≠ none := by
    intro hnone
    rw [offered_eq_nil_iff.2 (handler?_eq_none_iff_lacks.1 hnone)] at hhead
    cases hhead
  obtain ⟨h', hh'⟩ := Option.ne_none_iff_exists'.1 hne
  obtain ⟨n', part', hoffers⟩ := exists_offers hh'
  -- There is one that is offered, and it is first in order as well.
  have heq := Option.some.inj (hoffers.head?_offered.symm.trans hhead)
  cases heq
  exact hoffers

/-- The handler that a configuration offers is the state of the part that holds it. -/
theorem Offers.stateOf?_eq {n : Nat} {part : Interface.Part} {h : FunctionHandler}
    (hoffers : c.Offers kind n part h) : c.stateOf? (n, part) = some (.function h) := by
  obtain ⟨i, hi, hpart⟩ := hoffers.offers
  unfold stateOf? partOf?
  rw [hi, Option.bind_some]
  exact hpart.stateOf?_eq

end Configuration

/-! ### The first handler of the active configuration -/

namespace Model

/-- The place of the first handler of a kind in the active configuration. -/
def firstHandler? (m : Model) (kind : HandlerKind) : Option Entity :=
  m.active.bind fun position => (m.configurations[position]?).bind fun c =>
    (c.offered kind).head?.map fun x => ⟨position, x.1.1, x.1.2⟩

variable {m : Model} {kind : HandlerKind} {e : Entity}

/-- The first handler of a kind is the one that the active configuration offers. -/
theorem firstHandler?_eq_some_iff : m.firstHandler? kind = some e ↔
    ∃ c h, m.Active e.configuration c ∧ c.Offers kind e.interface e.part h := by
  obtain ⟨position, n, part⟩ := e
  simp only [firstHandler?, Configuration.offers_iff]
  constructor
  · intro hfirst
    obtain ⟨position', hposition, hfirst⟩ := Option.bind_eq_some_iff.1 hfirst
    obtain ⟨c, hc, hfirst⟩ := Option.bind_eq_some_iff.1 hfirst
    obtain ⟨⟨⟨n', part'⟩, h⟩, hhead, heq⟩ := Option.map_eq_some_iff.1 hfirst
    cases heq
    exact ⟨c, h, ⟨hposition, hc⟩, hhead⟩
  · rintro ⟨c, h, ⟨hposition, hc⟩, hhead⟩
    rw [hposition, Option.bind_some, hc, Option.bind_some, hhead, Option.map_some]

/-- The first handler keeps what it serves with. -/
theorem stateOf?_of_offers {position n : Nat} {c : Configuration} {part : Interface.Part}
    {h : FunctionHandler} (hactive : m.Active position c) (hoffers : c.Offers kind n part h) :
    m.stateOf? ⟨position, n, part⟩ = some (.function h) := by
  unfold stateOf? partOf?
  dsimp only
  rw [hactive.2, Option.bind_some]
  exact hoffers.stateOf?_eq

/-- The first handler, when it is there, is the one that the model finds. -/
theorem handler?_of_firstHandler? {h : FunctionHandler} (hfirst : m.firstHandler? kind = some e)
    (hstate : m.stateOf? e = some (.function h)) : m.handler? kind = some h := by
  obtain ⟨c, h', hactive, hoffers⟩ := firstHandler?_eq_some_iff.1 hfirst
  cases (stateOf?_of_offers hactive hoffers).symm.trans hstate
  rw [handler?, activeConfiguration?, hactive.1, Option.bind_some, hactive.2, Option.bind_some,
    hoffers.handler?_eq]

/-- The first handler of the kind, and no other entity, serves a class or vendor request. -/
theorem serves_iff_firstHandler? {r : Request} (hr : r.handlerKind? = some kind) :
    (∃ serve, m.Serves r e serve) ↔ m.firstHandler? kind = some e := by
  rw [firstHandler?_eq_some_iff]
  have haddresses : r.Addresses m.policy (.function kind) := Request.addresses_function_iff.2 hr
  constructor
  · rintro ⟨serve, target, htarget, hhosts⟩
    obtain rfl := htarget.target_eq.symm.trans haddresses.target_eq
    cases hhosts with
    | function hactive hoffers => exact ⟨_, _, hactive, hoffers⟩
  · rintro ⟨c, h, hactive, hoffers⟩
    exact ⟨_, _, haddresses, .function hactive hoffers⟩

end Model

namespace Device

/-- The place of the handler that a request goes to, if it goes to one. -/
def handlerFor? (d : Device) (r : Request) : Option Entity :=
  r.handlerKind?.bind d.model.firstHandler?

/-- The requests that come in for the handler at a place, each with the device that takes it in. -/
def deliveries (d : Device) (e : Entity) (actions : List Action) : List (Device × Request) :=
  (d.arrivals actions).filter fun x => x.1.handlerFor? x.2 = some e

/-- A handler after a request that the device lets it serve. -/
def serveIn (h : FunctionHandler) (x : Device × Request) : FunctionHandler :=
  (h.dispatch x.1.model.speed x.2 (x.1.link.note .setupReceived)).state

/-- How a device treats class and vendor requests, by the configuration that is active.

* the first handler in order serves, over the device's link, and nothing else changes;
* without any handler, and without an active configuration, the device refuses by one stall. -/
structure FirstWins (d : Device) : Prop where
  delivered : ∀ r kind position c n part h rest, r.handlerKind? = some kind →
    d.model.Active position c → c.offered kind = ((n, part), h) :: rest →
    d.IsServedBy r ⟨position, n, part⟩ fun link => (h.dispatch d.model.speed r link).map .function
  lacking : ∀ kind position c, d.model.Active position c → (c.offered kind = [] ↔ c.Lacks kind)
  stalled : ∀ r kind position c, r.handlerKind? = some kind → d.model.Active position c →
    c.Lacks kind → d.handleRequest r = d.refused
  idle : ∀ r kind, r.handlerKind? = some kind → d.model.active = none →
    d.handleRequest r = d.refused

/-- A class or vendor request for which there is no handler is refused. -/
theorem handleRequest_of_handler?_eq_none {d : Device} {r : Request} {kind : HandlerKind}
    (hr : r.handlerKind? = some kind) (h : d.model.handler? kind = none) :
    d.handleRequest r = d.refused := by
  apply handleRequest_eq_refused
  rw [(Request.addresses_function_iff.2 hr).target_eq, serve?, Model.serveFunction?_eq_none h]

/-- Every device asks the first handler of the request's kind and no other. -/
theorem firstWins (d : Device) : d.FirstWins where
  delivered r kind position c n part h rest hr hactive hoffered := by
    have hoffers : c.Offers kind n part h := by
      rw [Configuration.offers_iff, hoffered]
      rfl
    exact isServedBy ⟨_, Request.addresses_function_iff.2 hr, .function hactive hoffers⟩
  lacking _ _ _ _ := Configuration.offered_eq_nil_iff
  stalled r kind position c hr hactive hlacks := by
    refine handleRequest_of_handler?_eq_none hr ?_
    rw [Model.handler?, Model.activeConfiguration?, hactive.1, Option.bind_some, hactive.2,
      Option.bind_some, Configuration.handler?_eq_none_iff_lacks.2 hlacks]
  idle r kind hr hactive := by
    refine handleRequest_of_handler?_eq_none hr ?_
    rw [Model.handler?, Model.activeConfiguration?, hactive, Option.bind_none, Option.bind_none]

end Device

namespace Device

variable {d : Device} {e : Entity} {h : FunctionHandler}

/-- What keeps a handler of requests is the handler of an interface or of an endpoint. -/
theorem part_of_function (hstate : d.model.stateOf? e = some (.function h)) :
    (∃ kind, e.part = .handler kind) ∨ ∃ place kind, e.part = .endpoint place (.handler kind) := by
  obtain ⟨position, n, part⟩ := e
  obtain ⟨c, -, hc⟩ := Option.bind_eq_some_iff.1 hstate
  obtain ⟨i, -, hi⟩ := Option.bind_eq_some_iff.1 hc
  cases part with
  | state => cases hi
  | handler kind => exact .inl ⟨kind, rfl⟩
  | endpoint place part =>
    obtain ⟨ep, -, hep⟩ := Option.bind_eq_some_iff.1 hi
    cases part with
    | status => cases hep
    | traffic =>
      obtain ⟨t, -, ht⟩ := Option.map_eq_some_iff.1 hep
      cases ht
    | handler kind => exact .inr ⟨place, kind, rfl⟩

/-- A request that a handler's place serves is one for the handler in that place. -/
theorem handlerFor?_of_serves {r : Request} {serve : Link → Answer EntityState}
    (hstate : d.model.stateOf? e = some (.function h)) (hserves : d.model.Serves r e serve) :
    d.handlerFor? r = some e := by
  have hpart := part_of_function hstate
  have hexists : ∃ serve, d.model.Serves r e serve := ⟨serve, hserves⟩
  obtain ⟨target, haddresses, hhosts⟩ := hserves
  cases hhosts with
  | interface => simp only [reduceCtorEq, exists_false, or_self] at hpart
  | endpoint => simp only [reduceCtorEq, exists_false, or_false, Interface.Part.endpoint.injEq,
      and_false] at hpart
  | function =>
    have hr := Request.addresses_function_iff.1 haddresses
    rw [handlerFor?, hr, Option.bind_some]
    exact (Model.serves_iff_firstHandler? hr).1 hexists

/-- A handler serves the requests that come in for it. -/
theorem serves_of_handlerFor? {r : Request} (hstate : d.model.stateOf? e = some (.function h))
    (hfor : d.handlerFor? r = some e) :
    d.model.Serves r e fun link => (h.dispatch d.model.speed r link).map .function := by
  obtain ⟨kind, hr, hfirst⟩ := Option.bind_eq_some_iff.1 hfor
  obtain ⟨c, h', hactive, hoffers⟩ := Model.firstHandler?_eq_some_iff.1 hfirst
  obtain rfl : h' = h := by
    have hkeeps := Model.stateOf?_of_offers hactive hoffers
    cases hkeeps.symm.trans hstate
    rfl
  exact ⟨_, Request.addresses_function_iff.2 hr, .function hactive hoffers⟩

/-- A request that comes in for a handler is served by it, and every other request leaves it
alone. -/
theorem stateOf?_handleRequest_of_function
    (hrequests : ∀ code, (d.requests.lookup code).Spares e)
    (hstate : d.model.stateOf? e = some (.function h)) (r : Request) :
    (d.handleRequest r).1.model.stateOf? e =
      some (.function (if d.handlerFor? r = some e then serveIn h (d, r) else h)) := by
  by_cases hfor : d.handlerFor? r = some e
  · rw [if_pos hfor, (isServedBy (serves_of_handlerFor? hstate hfor)).state]
    rfl
  · rw [if_neg hfor, ← hstate]
    exact stateOf?_handleRequest_of_not_serves hrequests fun serve hserves =>
      hfor (handlerFor?_of_serves hstate hserves)

/-- What a handler keeps after a run is what the requests made of it that came in for it. -/
theorem stateOf?_after_of_function (hrequests : ∀ code, (d.requests.lookup code).Spares e)
    (hstate : d.model.stateOf? e = some (.function h)) (actions : List Action) :
    (d.after actions).model.stateOf? e =
      some (.function ((d.deliveries e actions).foldl serveIn h)) := by
  rw [deliveries, List.foldl_filter]
  refine after_arrivals (P := fun d' h => d'.model.stateOf? e = some (.function h)) ?_ ?_ rfl hstate
    actions
  · intro d' a h' _ ha hstate'
    have htraffic : ∀ place, e.part ≠ .endpoint place .traffic := by
      intro place hpart
      rcases part_of_function hstate' with ⟨kind, hkind⟩ | ⟨place', kind, hkind⟩
      · cases hkind.symm.trans hpart
      · cases hkind.symm.trans hpart
    rw [stateOf?_act_of_request?_eq_none htraffic ha, hstate']
  · intro d' h' r hd' hstate'
    rw [stateOf?_handleRequest_of_function (hd' ▸ hrequests) hstate' r]
    simp only [decide_eq_true_eq]

/-- **The first handler gets the requests of its kind, over whole runs.**  Whatever happened to a
device, each class or vendor request is served by the first handler in the order of the active
configuration, or refused if that has none.  What a handler keeps is what these requests made of
it, in order, from when it was made: what the host selects in between changes nothing.  (A request
that replaces one of the device's own is taken to leave the handler alone.) -/
theorem firstWins_after {g : Gadget} (link : Link) (actions : List Action) :
    ((ofGadget g link).after actions).FirstWins ∧
      ∀ e h, g.model.stateOf? e = some (.function h) →
        (∀ o ∈ g.overrides.entries, o.2.Spares e) →
        ((ofGadget g link).after actions).model.stateOf? e =
          some (.function (((ofGadget g link).deliveries e actions).foldl serveIn h)) := by
  refine ⟨firstWins _, fun e h hstate hoverrides => ?_⟩
  refine stateOf?_after_of_function (fun code => ?_) hstate actions
  exact RequestTable.lookup_merge (P := fun h : Handler Model => h.Spares e)
    (fun code => StandardRequests.spares_lookup code e) hoverrides code

end Device

/-- The hypotheses of `Device.firstWins_after` are satisfiable: of three class requests the second
comes in while another configuration is active, which has no handlers.  The other two go to the
endpoint of the first interface, which has counted them, and none to the second interface. -/
theorem Device.firstWins_after_counting :
    ∃ m, Model.build {} [.shared, {}] = .ok m ∧
      let d := ofGadget { model := m } {}
      let actions : List Action :=
        [.connect, .event (.setup [0, 9, 1, 0, 0, 0, 0, 0]),
          .event (.setup [0x21, 7, 0, 0, 1, 0, 0, 0]), .event (.setup [0, 9, 2, 0, 0, 0, 0, 0]),
          .event (.setup [0x21, 8, 0, 0, 1, 0, 0, 0]), .event (.setup [0, 9, 1, 0, 0, 0, 0, 0]),
          .event (.setup [0x21, 9, 0, 0, 1, 0, 0, 0])]
      let first : Entity := ⟨0, 0, .endpoint 0 (.handler .classSpecific)⟩
      let second : Entity := ⟨0, 1, .handler .classSpecific⟩
      (d.after actions).FirstWins ∧
        (d.deliveries first actions).map (·.2.code) = [7, 9] ∧
        (d.after actions).model.stateOf? first = some (.function (.counting 2)) ∧
        (d.after actions).model.stateOf? second = some (.function (.counting 0)) := by
  obtain ⟨m, hm⟩ : ∃ m, Model.build {} [.shared, {}] = .ok m := ⟨_, rfl⟩
  refine ⟨m, hm, ?_⟩
  cases hm
  refine ⟨(firstWins_after {} _).1, by decide +kernel, ?_, ?_⟩
  · exact (firstWins_after {} _).2 _ (.counting 0) rfl (List.forall_mem_nil _)
  · exact (firstWins_after {} _).2 _ (.counting 0) rfl (List.forall_mem_nil _)

/-- A handler of requests to a device that hands them on to the first class handler. -/
def Handler.forwarding : Handler Model := fun _ r link m =>
  (m.serveFunction? .classSpecific r link).getD (link.stall m)

/-- An interface whose class handler refuses the requests of a code. -/
def Configuration.refusing : Configuration where
  interfaces :=
    [{ number := 0
       classCode := 0xff
       functions :=
         { classHandler := some <| .custom
             { name := "refuser"
               requests :=
                 { entries := .ofList [(7, Handler.stall)], default := Handler.serviced }
               state := 0 } } }]

/-- Neither do handlers get class requests alone, nor are class requests stalled only for want of a
handler.  A request to the device itself, which no handler is to get, is counted by the first class
handler if the handler that replaces it hands it on; and a class request that goes to a handler is
stalled if the handler does so. -/
theorem Device.not_firstWins_forwarding :
    (∃ m, Model.build {} [.shared] = .ok m ∧
      let d := ofGadget { model := m, overrides := .ofList [(0x42, .forwarding)] } {}
      let actions : List Action :=
        [.connect, .event (.setup [0, 9, 1, 0, 0, 0, 0, 0]),
          .event (.setup [0, 0x42, 0, 0, 0, 0, 0, 0])]
      let first : Entity := ⟨0, 0, .endpoint 0 (.handler .classSpecific)⟩
      d.model.stateOf? first = some (.function (.counting 0)) ∧ d.deliveries first actions = [] ∧
        (d.after actions).model.stateOf? first = some (.function (.counting 1))) ∧
      ∃ m, Model.build {} [.refusing] = .ok m ∧
        let d := (ofGadget { model := m } {}).after
          [.connect, .event (.setup [0, 9, 1, 0, 0, 0, 0, 0])]
        let r : Request := { requestType := 0x21, code := 7 }
        ∃ c, d.model.Active 0 c ∧ ¬ c.Lacks .classSpecific ∧
          (d.handleRequest r).1.link.transport.log = d.link.transport.log ++ [.stall] := by
  obtain ⟨m, hm⟩ : ∃ m, Model.build {} [.shared] = .ok m := ⟨_, rfl⟩
  obtain ⟨m', hm'⟩ : ∃ m, Model.build {} [.refusing] = .ok m := ⟨_, rfl⟩
  refine ⟨⟨m, hm, ?_⟩, m', hm', ?_⟩
  · cases hm
    exact ⟨rfl, rfl, rfl⟩
  · cases hm'
    refine ⟨_, ⟨rfl, rfl⟩, fun hlacks => ?_, rfl⟩
    have hnone := (hlacks _ (List.mem_singleton_self _)).1
    cases hnone

end UsbGadget
