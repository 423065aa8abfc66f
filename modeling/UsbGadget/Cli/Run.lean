/-
# Running commands

| command | what it does |
| --- | --- |
| `list` | lists the profiles |
| `emulate` | runs one profile against recorded host traffic |
| `scan` | runs every profile and lists those that the host uses |
| `makestages` | runs one profile and records every stage that is built |
| `detect-os` | is not there yet |

A run gives an outcome: what is printed, what is written, and a failure with
its causes, the outermost first.  What was printed before a failure stays.
-/

import UsbGadget.Cli.Folder
import UsbGadget.Cli.Help
import UsbGadget.Cli.MutationTable
import UsbGadget.Json.Printer
import UsbGadget.Profile.Registry
import UsbGadget.Text.ControlSequence

namespace UsbGadget
namespace Cli

/-- A failure and its causes, the outermost first. -/
abbrev Failure := List String

/-- What a run leaves behind. -/
structure Outcome where
  printed : String := ""
  written : List (String × String) := []
  failure : Option Failure := none

namespace Outcome

/-- A run that fails before it does anything. -/
def failed (failure : Failure) : Outcome := { failure := some failure }

/-- A run that may fail before it does anything. -/
def ofExcept : Except Failure Outcome → Outcome
  | .ok outcome => outcome
  | .error failure => failed failure

end Outcome

/-- The text of a file, or why it cannot be read. -/
def readFile (files : Files) (what path : String) : Except Failure String :=
  match files.read path with
  | .ok text => .ok text
  | .error cause => .error ["read " ++ what ++ " " ++ path, cause.message]

/-- Writes a text: what is printed or left behind by that, or why it cannot be written. -/
def writeFile (files : Files) (what path text : String) : Except Failure Outcome :=
  match files.sink path with
  | .ok .file => .ok { written := [(path, text)] }
  | .ok .output => .ok { printed := text }
  | .error cause => .error ["write " ++ what ++ " " ++ path, cause.message]

/-- The physical layer, which must be selected. -/
def requirePhy : Option PhySelection → Except Failure PhySelection
  | some phy => .ok phy
  | none => .error ["no physical layer selected; pass -P replay:<trace.json>"]

/-- The host traffic of a physical layer. -/
def PhySelection.events (files : Files) : PhySelection → Except Failure (List HostEvent)
  | .replay path => do
    let text ← readFile files "host trace" path
    match (Json.parse? text).bind HostEvent.listOfJson? with
    | some events => .ok events
    | none => .error ["parse host trace " ++ path]
  | .hardware name =>
    .error ["physical layer `" ++ name ++
      "` is not available in this build; use replay:<trace.json>"]

/-- The bytes by stage of a mutation table. -/
def loadMutations (files : Files) (path : String) : Except Failure (Table Stage Bytes) := do
  let text ← readFile files "mutation table" path
  match (Json.parse? text).bind MutationTable.entries? with
  | none => .error ["parse mutation table " ++ path]
  | some table =>
    (MutationTable.byStage table).mapError fun u => ["mutation table " ++ path, u.message]

/-- The script of a mutation table, or one that replaces nothing. -/
def loadScript (files : Files) : Option String → Except Failure Script
  | none => .ok {}
  | some path => return MutationTable.script (← loadMutations files path)

/-- The gadget of a profile. -/
def ProfileChoice.gadget (p : ProfileChoice) : Except Failure Gadget :=
  match Registry.builtins.build p.name { vendorId := p.vendorId, productId := p.productId } with
  | .ok g => .ok g
  | .error (.build cause) => .error ((ProfileError.build cause).message :: cause.chain)
  | .error e => .error [e.message]

/-- A whole session of a gadget with an application. -/
def session (g : Gadget) (app : Application) (events : List HostEvent) :
    Device × Option UsbError :=
  (Device.ofGadget g { app := app }).runSession events

/-- The failure of a session that ended in an error. -/
def sessionFailure (e : UsbError) : Failure := "device session failed" :: e.chain

/-- The verdict of a session. -/
def verdict (history : List Callback) : String :=
  if Callback.isSupported history then "SUPPORTED" else "not supported"

/-- A line of the long list. -/
def listLine (name description : String) : String := padded 20 name ++ "  " ++ description ++ "\n"

/-- Lists the profiles, with their descriptions if that is asked for. -/
def list (verbose : Bool) : Outcome :=
  let profiles := Registry.builtins.descriptions
  let dashes (n : Nat) := String.ofList (List.replicate n '-')
  let lines :=
    if verbose then
      listLine "Device" "Description" :: listLine (dashes 20) (dashes 52) ::
        profiles.map fun p => listLine p.1 p.2
    else profiles.map fun p => p.1 ++ "\n"
  { printed := String.join lines }

/-- Runs one profile and tells whether the host uses it. -/
def emulate (files : Files) (phy : Option PhySelection) (profile : ProfileChoice)
    (mutations record : Option String) : Outcome :=
  .ofExcept do
    let events ← (← requirePhy phy).events files
    let script ← loadScript files mutations
    let gadget ← profile.gadget
    let (device, error) := session gadget script.application events
    let calls := Json.array (device.link.transport.log.map Call.toJson)
    let recorded ←
      match record with
      | none => pure {}
      | some path => writeFile files "transport record" path calls.pretty
    return { recorded with
      printed := recorded.printed ++ profile.name ++ ": " ++ verdict device.link.history ++
        " (device " ++ device.model.state.describe ++ ")\n"
      failure := error.map sessionFailure }

/-- Runs a profile and tells whether the host uses it; a session ends as soon as that is known,
unless it is to go on. -/
def isSupported (events : List HostEvent) (wait : Bool) (g : Gadget) : Bool :=
  let script : Script := { stopWhenSupported := !wait }
  Callback.isSupported (session g script.application events).1.link.history

/-- The names of the profiles that the host uses. -/
def supportedProfiles (events : List HostEvent) (wait : Bool) : List String :=
  Registry.builtins.names.filter fun name =>
    match Registry.builtins.build name {} with
    | .ok g => isSupported events wait g
    | .error _ => false

/-- The report of a scan. -/
def scanReport : List String → String
  | [] => "No supported devices found\n"
  | names =>
    "Found " ++ toString names.length ++ " supported device(s):\n" ++
      String.join (names.zipIdx.map fun (name, i) => toString (i + 1) ++ ". " ++ name ++ "\n")

/-- Runs every profile and lists those that the host uses. -/
def scan (files : Files) (phy : Option PhySelection) (wait : Bool) : Outcome :=
  .ofExcept do
    let events ← (← requirePhy phy).events files
    return { printed := scanReport (supportedProfiles events wait) }

/-- The file with the stages of a session. -/
def stageFileJson (profile : String) (queries : List (Stage × Bytes)) : Json :=
  .record
    [("profile", .text profile),
      ("stages", .array (queries.map fun q =>
        .record [("stage", q.1.toJson), ("data", .ofBytes q.2)]))]

/-- Runs one profile and records the stages that are built. -/
def makeStages (files : Files) (phy : Option PhySelection) (profile : ProfileChoice)
    (stageFile : String) : Outcome :=
  .ofExcept do
    let events ← (← requirePhy phy).events files
    let gadget ← profile.gadget
    let (device, error) := session gadget Application.silent events
    let queries := Callback.queries device.link.history
    let recorded ←
      writeFile files "stage file" stageFile (stageFileJson profile.name queries).pretty
    return { recorded with
      printed :=
        recorded.printed ++ "recorded " ++ toString queries.length ++ " stages to " ++ stageFile ++
          "\n"
      failure := error.map sessionFailure }

/-- Runs a command. -/
def Invocation.run (i : Invocation) (files : Files) : Outcome :=
  match i.command with
  | .list => list i.verbose
  | .emulate phy profile mutations record => emulate files phy profile mutations record
  | .scan phy wait => scan files phy wait
  | .makeStages phy profile stageFile => makeStages files phy profile stageFile
  | .detectOs => { printed := "OS detection is not implemented\n" }

/-- The files that a choice of controller reads. -/
def PhySelection.inputs : Option PhySelection → List String
  | some (.replay path) => [path]
  | _ => []

/-- The files that a command reads. -/
def Command.inputs : Command → List String
  | .emulate phy _ mutations _ => PhySelection.inputs phy ++ mutations.toList
  | .scan phy _ => PhySelection.inputs phy
  | .makeStages phy _ _ => PhySelection.inputs phy
  | .list | .detectOs => []

/-- How the program ends. -/
inductive Exit where
  | success
  | failure (chain : Failure)
  | usage (reason : Option String)
  deriving DecidableEq, Repr

/-- The number that the program ends with. -/
def Exit.code : Exit → UInt32
  | success => 0
  | failure _ => 1
  | usage _ => 2

/-- What is printed for the version. -/
def versionLine : String := "phantom 0.1.0\n"

/-- What the program does with its arguments before any command runs.  A reason quotes the value
that was rejected and is shown without the control sequences in it. -/
def Stop.outcome : Stop → String × Exit
  | .help topic => (topic.text, .success)
  | .version => (versionLine, .success)
  | .usage reason => ("", .usage (reason.map ControlSequence.stripText))

/-- How the program ends after a run. -/
def Outcome.exit (o : Outcome) : Exit := o.failure.elim .success .failure

end Cli
end UsbGadget
