/-
# The verdict on a profile

A session shows that the host uses a function once a reason was signalled for
it, and a reason that was signalled stays (`Callback.isSupported_append`).  So
it does not matter how long a session goes on after that: an application that
asks to stop only when the function is known to be supported cannot lose a
verdict, and neither can an event that fails later on
(`Profile.isSupported_session`).

Scanning stops at the first reason, or goes on if it is told to wait; emulating
goes on, and replaces descriptors.  All three come to the same verdict on every
profile (`Cli.scan_emulate_agree`).
-/

import UsbGadget.Proofs.Replacement

namespace UsbGadget

namespace Callback

/-- A history shows a supported device when one of its two parts does. -/
theorem isSupported_append (history more : List Callback) :
    isSupported (history ++ more) = (isSupported history || isSupported more) := by
  rw [isSupported, reasons, List.filterMap_append, isSupported, reasons]
  cases history.filterMap reason? <;> rfl

/-- Histories that are alike give one verdict. -/
theorem isSupported_eq_of_alike {history history' : List Callback}
    (h : List.Forall₂ Alike history history') : isSupported history' = isSupported history := by
  rw [isSupported, isSupported, reasons_eq_of_alike h]

end Callback

/-- The application asks to stop only when the function is known to be supported. -/
def Application.StopsWhenSupported (app : Application) : Prop :=
  ∀ history, app.wantsStop history = true → Callback.isSupported history = true

/-- An application that never stops also stops when the device is supported, if at all. -/
theorem Application.NeverStops.stopsWhenSupported {app : Application} (h : app.NeverStops) :
    app.StopsWhenSupported := by
  intro history hstop
  rw [h history] at hstop
  cases hstop

/-- Stopping at the first support signal is stopping when the function is supported. -/
theorem Script.stopsWhenSupported (stop : Bool) :
    (Script.application { stopWhenSupported := stop }).StopsWhenSupported := by
  intro history hstop
  exact (Bool.and_eq_true_iff.1 hstop).2

namespace Device

/-- Leaving the bus signals nothing. -/
theorem isSupported_leave (d : Device) (error : Option UsbError) :
    Callback.isSupported (d.leave error).link.history = Callback.isSupported d.link.history := by
  rw [history_leave, Callback.isSupported_append]
  split <;> exact Bool.or_false _

variable {hub : Prop} {identity : DeviceInfo → DeviceInfo} {d d' : Device}

/-- Twin devices reach one verdict in every session. -/
theorem Twins.isSupported_rounds (h : Twins hub identity d d')
    (hhistory : d'.link.history = d.link.history) (events : List HostEvent) :
    Callback.isSupported (d'.rounds events).link.history =
      Callback.isSupported (d.rounds events).link.history := by
  obtain ⟨x, x', halike, hlink, hlink'⟩ := h.exists_link_rounds events
  rw [hlink, hlink', Link.after, Link.after, hhistory]
  exact Callback.isSupported_eq_of_alike
    (List.rel_append (Callback.forall₂_alike_refl _) halike.told)

/-- What was signalled in some rounds stays through all that follow. -/
theorem Twins.isSupported_of_prefix (h : Twins hub identity d d') {before events : List HostEvent}
    (hbegins : before <+: events)
    (hsupported : Callback.isSupported (d'.rounds before).link.history = true) :
    Callback.isSupported (d'.rounds events).link.history = true := by
  obtain ⟨more, rfl⟩ := hbegins
  obtain ⟨x, x', -, -, hlink⟩ := (h.rounds before).exists_link_rounds more
  rw [rounds_append, hlink, Link.after, Callback.isSupported_append, hsupported, Bool.true_or]

/-- **A verdict is not lost by going on or by stopping.**  Of twins, if one shows that the function
is supported, the other one does when it has as much to take in, unless it stops before that is
known. -/
theorem Twins.isSupported_of_course (h : Twins hub identity d d')
    (hhistory : d'.link.history = d.link.history) (happ' : d'.link.app.StopsWhenSupported)
    {events events' handled handled' : List HostEvent} {error error' : Option UsbError}
    (hevents : events <+: events') (hc : d.Course events handled error)
    (hc' : d'.Course events' handled' error')
    (hsupported : Callback.isSupported (d.rounds handled).link.history = true) :
    Callback.isSupported (d'.rounds handled').link.history = true := by
  rw [← h.isSupported_rounds hhistory] at hsupported
  rcases List.prefix_or_prefix_of_prefix (hc.handled_prefix.trans hevents) hc'.handled_prefix with
    hle | hle
  · exact h.isSupported_of_prefix hle hsupported
  · by_cases heq : handled' = handled
    · rw [heq]
      exact hsupported
    · have hstop := hc.stops_of_shorter hc' hevents h.failure_round hle heq
      rw [poll, (h.app_rounds handled').2] at hstop
      exact happ' _ hstop

end Device

namespace Profile

/-- What a user sets apart from the speed changes no more of a gadget than its identity. -/
theorem relabel_of_build {p : Profile} {o o' : ProfileOptions} {g g' : Gadget}
    (h : p.build o = .ok g) (h' : p.build o' = .ok g') (hspeed : o'.speed = o.speed) :
    g'.model = g.model.relabel (fun _ => g'.model.info) ∧ g'.overrides = g.overrides := by
  have happly : ∀ m : Model, o'.apply m = (o.apply m).relabel fun _ => (o'.apply m).info := by
    intro m
    rw [ProfileOptions.apply, hspeed]
    rfl
  cases p with
  | billboard =>
    obtain ⟨m, hm, hg⟩ := exists_of_bind_eq_ok h
    obtain ⟨m', hm', hg'⟩ := exists_of_bind_eq_ok h'
    obtain ⟨n, hn, hm⟩ := exists_of_bind_eq_ok hm
    obtain ⟨n', hn', hm'⟩ := exists_of_bind_eq_ok hm'
    cases hn.symm.trans hn'
    cases hm
    cases hm'
    cases hg
    cases hg'
    exact ⟨happly _, rfl⟩
  | _ =>
    obtain ⟨m, hm, hg⟩ := exists_of_bind_eq_ok h
    obtain ⟨m', hm', hg'⟩ := exists_of_bind_eq_ok h'
    cases hm.symm.trans hm'
    cases hg
    cases hg'
    exact ⟨happly _, rfl⟩

/-- The verdict on a profile does not depend on the identity, on what is replaced, or on when the
session ends, as long as it does not stop before the function is known to be supported. -/
theorem isSupported_session {p : Profile} {o o' : ProfileOptions} {g g' : Gadget}
    (hg : p.build o = .ok g) (hg' : p.build o' = .ok g') (hspeed : o'.speed = o.speed)
    {app app' : Application} (happ' : app'.StopsWhenSupported) {events events' : List HostEvent}
    (hevents : events <+: events')
    (hsupported : Callback.isSupported (Cli.session g app events).1.link.history = true) :
    Callback.isSupported (Cli.session g' app' events').1.link.history = true := by
  obtain ⟨hmodel, hoverrides⟩ := relabel_of_build hg hg' hspeed
  have htwins := Device.twins_fresh hg hmodel hoverrides app app'
  obtain ⟨handled, error, hcourse, hsession⟩ :=
    Device.exists_course_runSession (proper_of_build hg) app events
  obtain ⟨handled', error', hcourse', hsession'⟩ :=
    Device.exists_course_runSession (proper_of_build hg') app' events'
  rw [Cli.session, hsession, Device.isSupported_leave] at hsupported
  rw [Cli.session, hsession', Device.isSupported_leave]
  exact htwins.isSupported_of_course rfl happ' hevents hcourse hcourse' hsupported

end Profile

/-- What is built in under the name of a profile is that profile. -/
theorem Registry.build_name (p : Profile) (o : ProfileOptions) :
    builtins.build p.name o = (p.build o).mapError .build := by
  cases p <;> rfl

/-- Every built-in profile builds, whatever the options are. -/
theorem Profile.exists_build (p : Profile) (o : ProfileOptions) : ∃ g, p.build o = .ok g := by
  cases p <;> exact ⟨_, rfl⟩

namespace Cli

/-- Emulating never asks to stop. -/
theorem neverStops_of_loadScript {files : Files} {mutations : Option String} {script : Script}
    (h : loadScript files mutations = .ok script) : script.application.NeverStops := by
  cases mutations with
  | none =>
    cases h
    exact fun _ => rfl
  | some path =>
    obtain ⟨stages, -, h⟩ := exists_of_bind_eq_ok h
    cases h
    exact MutationTable.neverStops_script stages

/-- The names of the profiles on which the verdict of a session is that the host uses them. -/
theorem mem_supportedProfiles_iff {p : Profile} {o : ProfileOptions} {g : Gadget}
    (hspeed : o.speed = none) (hg : p.build o = .ok g) {app : Application}
    (happ : app.StopsWhenSupported) (events : List HostEvent) (wait : Bool) :
    p.name ∈ supportedProfiles events wait ↔
      Callback.isSupported (session g app events).1.link.history = true := by
  obtain ⟨plain, hplain⟩ := p.exists_build {}
  have hname : p.name ∈ Registry.builtins.names := by cases p <;> decide
  rw [supportedProfiles, List.mem_filter, Registry.build_name, hplain]
  constructor
  · rintro ⟨-, h⟩
    exact Profile.isSupported_session hplain hg hspeed happ (List.prefix_refl events) h
  · intro h
    exact ⟨hname, Profile.isSupported_session hg hplain hspeed.symm
      (Script.stopsWhenSupported (!wait)) (List.prefix_refl events) h⟩

/-- Waiting after the first signal changes no verdict of a scan. -/
theorem supportedProfiles_wait (events : List HostEvent) (wait : Bool) :
    supportedProfiles events wait = supportedProfiles events false := by
  refine List.filter_congr fun name hname => ?_
  obtain ⟨p, -, rfl⟩ := List.mem_map.1 (show name ∈ Profile.all.map Profile.name from hname)
  obtain ⟨g, hg⟩ := p.exists_build {}
  rw [Registry.build_name, hg, Bool.eq_iff_iff]
  exact ⟨Profile.isSupported_session hg hg rfl (Script.stopsWhenSupported _) (List.prefix_refl _),
    Profile.isSupported_session hg hg rfl (Script.stopsWhenSupported _) (List.prefix_refl _)⟩

/-- A file that can be opened is written. -/
theorem exists_writeFile {files : Files} {path : String}
    (h : ∃ sink, files.sink path = .ok sink) (what text : String) :
    ∃ written, writeFile files what path text = .ok written := by
  obtain ⟨sink, hsink⟩ := h
  rw [writeFile, hsink]
  cases sink <;> exact ⟨_, rfl⟩

/-- The line that tells of a verdict. -/
def verdictLine (name : String) (supported : Bool) : String :=
  name ++ ": " ++ (if supported then "SUPPORTED" else "not supported") ++ " (device Detached)\n"

/-- What emulating a profile prints. -/
theorem printed_emulate {files : Files} {selection : PhySelection} {events : List HostEvent}
    (hevents : selection.events files = .ok events) {mutations record : Option String}
    {script : Script} (hscript : loadScript files mutations = .ok script)
    (hrecord : ∀ path, record = some path → ∃ sink, files.sink path = .ok sink) (p : Profile)
    (vendorId productId : Option UInt16) :
    ∃ recorded, (record = none → recorded = "") ∧
      (emulate files (some selection) ⟨p.name, vendorId, productId⟩ mutations record).printed =
        recorded ++ verdictLine p.name (decide (p.name ∈ supportedProfiles events false)) := by
  obtain ⟨g, hg⟩ := p.exists_build { vendorId := vendorId, productId := productId }
  have hgadget : ProfileChoice.gadget ⟨p.name, vendorId, productId⟩ = .ok g := by
    rw [ProfileChoice.gadget, Registry.build_name, hg]
    rfl
  have hmem := mem_supportedProfiles_iff rfl hg
    (neverStops_of_loadScript hscript).stopsWhenSupported events false
  have hstate : (session g script.application events).1.model.state = .detached := by
    obtain ⟨handled, error, -, hsession⟩ :=
      Device.exists_course_runSession (Profile.proper_of_build hg) script.application events
    rw [session, hsession, Device.model_leave]
  have hverdict : verdict (session g script.application events).1.link.history =
      if p.name ∈ supportedProfiles events false then "SUPPORTED" else "not supported" := by
    simp only [verdict, hmem]
  have hline : ∀ out, out ++ p.name ++ ": " ++
      verdict (session g script.application events).1.link.history ++ " (device " ++
        (session g script.application events).1.model.state.describe ++ ")\n" =
      out ++ verdictLine p.name (decide (p.name ∈ supportedProfiles events false)) := by
    intro out
    rw [hverdict, hstate, verdictLine]
    simp only [String.append_assoc, decide_eq_true_eq]
    rfl
  unfold emulate
  simp only [requirePhy, hevents, hscript, hgadget, bind, Except.bind, pure, Except.pure]
  cases record with
  | none => exact ⟨"", fun _ => rfl, hline ""⟩
  | some path =>
    obtain ⟨written, hwritten⟩ := exists_writeFile (hrecord path rfl) "transport record"
      (Json.array
        ((session g script.application events).1.link.transport.log.map Call.toJson)).pretty
    simp only [hwritten]
    exact ⟨written.printed, (fun h => absurd h (Option.some_ne_none path)), hline written.printed⟩

/-- **Scanning, scanning on and emulating agree on what the host uses.**  Whatever the host does,
there is one list of profiles, in the order of their names, which a scan reports whether it stops at
the first signal or waits.  A profile is in it just if any session of the profile comes to that
verdict, whatever identity and whatever descriptors it has, and however long it goes on, as long as
it does not ask to stop before the function is known to be supported; what came in before is enough,
even if a later event fails.  Emulating a profile, with any mutation table, prints that verdict. -/
theorem scan_emulate_agree (events : List HostEvent) :
    ∃ listed : List String,
      listed.Sublist (Profile.all.map Profile.name) ∧ listed.Pairwise (· < ·) ∧
      (∀ wait, supportedProfiles events wait = listed) ∧
      (∀ (p : Profile) (o : ProfileOptions) (g : Gadget) (app : Application),
        o.speed = none → p.build o = .ok g → app.StopsWhenSupported →
        (p.name ∈ listed ↔
          Callback.isSupported (session g app events).1.link.history = true) ∧
        ∀ before, before <+: events →
          Callback.isSupported (session g app before).1.link.history = true → p.name ∈ listed) ∧
      ∀ (files : Files) (selection : PhySelection), selection.events files = .ok events →
        (∀ wait, scan files (some selection) wait = { printed := scanReport listed }) ∧
        ∀ (p : Profile) (vendorId productId : Option UInt16) (mutations record : Option String)
          (script : Script), loadScript files mutations = .ok script →
          (∀ path, record = some path → ∃ sink, files.sink path = .ok sink) →
          ∃ recorded, (record = none → recorded = "") ∧
            (emulate files (some selection) ⟨p.name, vendorId, productId⟩ mutations record).printed =
              recorded ++ verdictLine p.name (decide (p.name ∈ listed)) := by
  have hsublist : (supportedProfiles events false).Sublist (Profile.all.map Profile.name) :=
    List.filter_sublist
  refine ⟨supportedProfiles events false, hsublist, ?_, supportedProfiles_wait events, ?_, ?_⟩
  · exact List.Pairwise.sublist hsublist (by decide)
  · intro p o g app hspeed hg happ
    have hmem := mem_supportedProfiles_iff hspeed hg happ events false
    refine ⟨hmem, fun before hbefore hsupported => ?_⟩
    exact hmem.2 (Profile.isSupported_session hg hg rfl happ hbefore hsupported)
  · intro files selection hevents
    refine ⟨fun wait => ?_, fun p vendorId productId mutations record script hscript hrecord => ?_⟩
    · rw [scan]
      simp only [requirePhy, hevents, bind, Except.bind, pure, Except.pure,
        supportedProfiles_wait events wait]
      rfl
    · exact printed_emulate hevents hscript hrecord p vendorId productId

/-- The hypotheses of `scan_emulate_agree` are satisfiable: a host that asks for the binary object
store makes use of the billboard and of nothing else, which a scan and an emulation both tell. -/
theorem scan_emulate_agree_billboard :
    let trace := "[\x7b\"kind\": \"setup\", \"bytes\": [128, 6, 0, 15, 0, 0, 5, 0]\x7d]"
    let files : Files := { read := fun _ => .ok trace, sink := fun _ => .ok .file }
    let phy := some (PhySelection.replay "trace.json")
    (∀ wait, scan files phy wait =
      { printed := "Found 1 supported device(s):\n1. billboard\n" }) ∧
    (emulate files phy ⟨"billboard", none, none⟩ none none).printed =
      "billboard: SUPPORTED (device Detached)\n" ∧
    (emulate files phy ⟨"hub", none, none⟩ none none).printed =
      "hub: not supported (device Detached)\n" := by
  intro trace files phy
  have hevents : (PhySelection.replay "trace.json").events files =
      .ok [.setup [128, 6, 0, 15, 0, 0, 5, 0]] := by
    have hparsed : (Json.parse? trace).bind HostEvent.listOfJson? =
        some [.setup [128, 6, 0, 15, 0, 0, 5, 0]] := by
      decide +kernel
    simp only [PhySelection.events, readFile, files, hparsed, bind, Except.bind]
  obtain ⟨listed, -, -, hlisted, -, hreport⟩ :=
    scan_emulate_agree [.setup [128, 6, 0, 15, 0, 0, 5, 0]]
  have hnames : listed = ["billboard"] := by
    rw [← hlisted false]
    decide +kernel
  subst hnames
  obtain ⟨hscan, hemulate⟩ := hreport files _ hevents
  obtain ⟨recorded, hrecorded, hbillboard⟩ := hemulate .billboard none none none none {} rfl nofun
  obtain ⟨recorded', hrecorded', hhub⟩ := hemulate .hub none none none none {} rfl nofun
  cases hrecorded rfl
  cases hrecorded' rfl
  exact ⟨hscan, hbillboard, hhub⟩

end Cli

end UsbGadget
