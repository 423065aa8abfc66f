/-
# Command-line arguments

| command | options |
| --- | --- |
| any | `-v` `--verbose` (repeatable), `-q` `--quiet`, `-h` `--help` |
| none | `-V` `--version` |
| `list` | |
| `emulate` | `-P` `--phy`, `-C` `--class`, `--vid`, `--pid`, `--mutations`, `--record` |
| `scan` | `-P` `--phy`, `-t` `--timeout`, `-w` `--wait-for-timeout` |
| `makestages` | `-P` `--phy`, `-C` `--class`, `--vid`, `--pid`, `-s` `--stage-file` |
| `detect-os` | `-P` `--phy` |

A value is attached (`--vid=1`, `-C=hub`, `-Chub`) and checked at once, or is
the next argument and checked when the next known option comes, or at the end.
No separate value starts with a dash, unless it is a single dash.  An option
with a value and a switch other than `-v` may be given once.
-/

import UsbGadget.Text.Hex

namespace UsbGadget
namespace Cli

/-- Where host traffic comes from. -/
inductive PhySelection where
  | replay (path : String)
  | hardware (name : String)
  deriving DecidableEq, Repr

/-- The text without a word in front of it, if it starts with that word. -/
def afterWord? (word s : String) : Option String :=
  if word.toList.isPrefixOf s.toList then some (String.ofList (s.toList.drop word.length)) else none

/-- Reads a selection of the physical layer, or says why it is none. -/
def PhySelection.ofText (s : String) : Except String PhySelection :=
  match afterWord? "replay:" s with
  | some "" => .error "replay transport needs a trace file: replay:<trace.json>"
  | some path => .ok (.replay path)
  | none =>
    if s = "gadgetfs" || s = "auto" || (afterWord? "fd:" s).isSome then .ok (.hardware s)
    else
      .error ("unknown physical layer `" ++ s ++
        "` (expected replay:<trace.json>, fd:<serial_port> or gadgetfs)")

/-- The value of a digit in a base of at most 16. -/
def digit? (base : Nat) (c : Char) : Option Nat :=
  let value :=
    if c.isDigit then c.toNat - '0'.toNat
    else if 'a' ≤ c && c ≤ 'f' then c.toNat - 'a'.toNat + 10
    else if 'A' ≤ c && c ≤ 'F' then c.toNat - 'A'.toNat + 10
    else base
  if value < base then some value else none

/-- Reads digits of a number that is below `bound`.  The first digit that is none, or that makes the
number too large, is what is wrong. -/
def digits (base bound : Nat) : Nat → List Char → Except String Nat
  | n, [] => .ok n
  | n, c :: cs =>
    match digit? base c with
    | none => .error "invalid digit found in string"
    | some d =>
      if n * base + d < bound then digits base bound (n * base + d) cs
      else .error "number too large to fit in target type"

/-- Reads a number below `bound`, with or without a plus sign, or says why it is none. -/
def number (base bound : Nat) (cs : List Char) : Except String Nat :=
  match cs with
  | [] => .error "cannot parse integer from empty string"
  | ['+'] => .error "invalid digit found in string"
  | '+' :: cs => digits base bound 0 cs
  | cs => digits base bound 0 cs

/-- Reads a 16-bit id, decimal or hexadecimal after `0x`, or says why it is none. -/
def deviceId (s : String) : Except String UInt16 :=
  let value :=
    match s.toList with
    | '0' :: 'x' :: cs => number 16 0x10000 cs
    | '0' :: 'X' :: cs => number 16 0x10000 cs
    | cs => number 10 0x10000 cs
  match value with
  | .ok n => .ok (UInt16.ofNat n)
  | .error reason => .error ("invalid 16-bit id `" ++ s ++ "`: " ++ reason)

/-- An option that has a value. -/
inductive Setting where
  | phy
  | profile
  | vendorId
  | productId
  | mutations
  | record
  | timeout
  | stageFile
  deriving DecidableEq, Repr

/-- An option that has none. -/
inductive Switch where
  | verbose
  | quiet
  | help
  | version
  | waitForTimeout
  deriving DecidableEq, Repr

/-- An option of either sort. -/
inductive Flag where
  | setting (s : Setting)
  | switch (s : Switch)
  deriving DecidableEq, Repr

/-- The name of an option after two dashes. -/
def Flag.long : Flag → String
  | setting .phy => "phy"
  | setting .profile => "class"
  | setting .vendorId => "vid"
  | setting .productId => "pid"
  | setting .mutations => "mutations"
  | setting .record => "record"
  | setting .timeout => "timeout"
  | setting .stageFile => "stage-file"
  | switch .verbose => "verbose"
  | switch .quiet => "quiet"
  | switch .help => "help"
  | switch .version => "version"
  | switch .waitForTimeout => "wait-for-timeout"

/-- The letter of an option after one dash. -/
def Flag.short? : Flag → Option Char
  | setting .phy => some 'P'
  | setting .profile => some 'C'
  | setting .timeout => some 't'
  | setting .stageFile => some 's'
  | setting _ => none
  | switch .verbose => some 'v'
  | switch .quiet => some 'q'
  | switch .help => some 'h'
  | switch .version => some 'V'
  | switch .waitForTimeout => some 'w'

/-- What has been set so far. -/
structure Settings where
  phy : Option PhySelection := none
  profile : Option String := none
  vendorId : Option UInt16 := none
  productId : Option UInt16 := none
  mutations : Option String := none
  record : Option String := none
  timeout : Option Nat := none
  stageFile : Option String := none
  waitForTimeout : Bool := false
  verbosity : Nat := 0
  quiet : Bool := false
  deriving DecidableEq, Repr

/-- The commands. -/
inductive CommandName where
  | list
  | emulate
  | scan
  | makeStages
  | detectOs
  deriving DecidableEq, Repr

/-- What help can be had on. -/
inductive HelpTopic where
  | program
  | command (name : CommandName)
  | help
  deriving DecidableEq, Repr

/-- Why reading the arguments ends early: help or the version is asked for, or the arguments are
wrong, with the reason if a value was rejected. -/
inductive Stop where
  | help (topic : HelpTopic)
  | version
  | usage (reason : Option String)
  deriving DecidableEq, Repr

namespace Settings

/-- Whether an option has been set. -/
def has (s : Settings) : Setting → Bool
  | .phy => s.phy.isSome
  | .profile => s.profile.isSome
  | .vendorId => s.vendorId.isSome
  | .productId => s.productId.isSome
  | .mutations => s.mutations.isSome
  | .record => s.record.isSome
  | .timeout => s.timeout.isSome
  | .stageFile => s.stageFile.isSome

/-- A value that was read, or the reason why it was rejected. -/
def checked {α : Type} : Except String α → Except Stop α
  | .ok a => .ok a
  | .error reason => .error (.usage (some reason))

/-- A path, which is not empty. -/
def path (value : String) : Except Stop String :=
  if value = "" then .error (.usage none) else .ok value

/-- Sets an option that has not been set. -/
def put (s : Settings) (setting : Setting) (value : String) : Except Stop Settings :=
  if s.has setting then .error (.usage none)
  else
    match setting with
    | .phy => do return { s with phy := some (← checked (PhySelection.ofText value)) }
    | .profile => .ok { s with profile := some value }
    | .vendorId => do return { s with vendorId := some (← checked (deviceId value)) }
    | .productId => do return { s with productId := some (← checked (deviceId value)) }
    | .mutations => do return { s with mutations := some (← path value) }
    | .record => do return { s with record := some (← path value) }
    | .timeout => do
      return { s with timeout := some (← checked (number 10 (1 <<< 64) value.toList)) }
    | .stageFile => do return { s with stageFile := some (← path value) }

/-- Turns a switch on. -/
def turnOn (s : Settings) : Switch → Except Stop Settings
  | .verbose => .ok { s with verbosity := s.verbosity + 1 }
  | .quiet => if s.quiet then .error (.usage none) else .ok { s with quiet := true }
  | .help => .error (.help .program)
  | .version => .error .version
  | .waitForTimeout =>
    if s.waitForTimeout then .error (.usage none) else .ok { s with waitForTimeout := true }

/-- Whether output is to be both more and less. -/
def isContradictory (s : Settings) : Bool := 0 < s.verbosity && s.quiet

end Settings

/-- The settings, and an option whose value is still to come or to be checked. -/
structure Scan where
  settings : Settings := {}
  pending : Option (Setting × Option String) := none

namespace Scan

/-- Checks the value that is pending. -/
def settle (s : Scan) : Except Stop Settings :=
  match s.pending with
  | none => .ok s.settings
  | some (_, none) => .error (.usage none)
  | some (setting, some value) => s.settings.put setting value

/-- An option with an attached value. -/
def attach (s : Scan) (setting : Setting) (value : String) : Except Stop Scan := do
  return { settings := ← (← s.settle).put setting value }

/-- An option whose value is to come. -/
def await (s : Scan) (setting : Setting) : Except Stop Scan := do
  return { settings := ← s.settle, pending := some (setting, none) }

/-- A switch. -/
def turnOn (s : Scan) (switch : Switch) : Except Stop Scan := do
  return { settings := ← (← s.settle).turnOn switch }

/-- A name and a value that is attached to it. -/
def splitValue (cs : List Char) : String × Option String :=
  (String.ofList (cs.takeWhile (· ≠ '=')),
    match cs.dropWhile (· ≠ '=') with
    | [] => none
    | _ :: value => some (String.ofList value))

/-- An option after two dashes. -/
def takeLong (flags : List Flag) (cs : List Char) (s : Scan) : Except Stop Scan :=
  let (name, value) := splitValue cs
  match flags.find? (·.long = name), value with
  | none, _ => .error (.usage none)
  | some (.switch switch), none => s.turnOn switch
  | some (.switch _), some _ => .error (.usage none)
  | some (.setting setting), none => s.await setting
  | some (.setting setting), some value => s.attach setting value

/-- A value that is attached to a letter, with or without an equals sign. -/
def attachedToLetter : List Char → String
  | '=' :: cs => String.ofList cs
  | cs => String.ofList cs

/-- Options after one dash: switches, and at the end an option with a value. -/
def takeShort (flags : List Flag) : List Char → Scan → Except Stop Scan
  | [], s => .ok s
  | c :: cs, s =>
    match flags.find? (·.short? = some c) with
    | none => .error (.usage none)
    | some (.switch switch) => do takeShort flags cs (← s.turnOn switch)
    | some (.setting setting) =>
      if cs.isEmpty then s.await setting else s.attach setting (attachedToLetter cs)

/-- The characters after the dashes of an option. -/
inductive Shape where
  | long (cs : List Char)
  | short (cs : List Char)
  | plain

/-- What an argument looks like. -/
def shape (arg : String) : Shape :=
  match arg.toList with
  | '-' :: '-' :: cs => .long cs
  | '-' :: c :: cs => .short (c :: cs)
  | _ => .plain

/-- Takes an argument that is not an option: the value that is to come, if there is one. -/
def takeValue (value : String) (s : Scan) : Except Stop Scan :=
  match s.pending with
  | some (setting, none) => .ok { s with pending := some (setting, some value) }
  | _ => .error (.usage none)

/-- Reads the arguments of a command, none of which stands on its own. -/
def arguments (flags : List Flag) : List String → Scan → Except Stop Settings
  | [], s => s.settle
  | arg :: args, s =>
    match shape arg with
    | .long [] => if args.isEmpty then s.settle else .error (.usage none)
    | .long cs => do arguments flags args (← s.takeLong flags cs)
    | .short cs => do arguments flags args (← takeShort flags cs s)
    | .plain => do arguments flags args (← s.takeValue arg)

/-- Reads the arguments before the name of a command: the settings, the name, and what follows. -/
def untilName (flags : List Flag) :
    List String → Scan → Except Stop (Settings × String × List String)
  | [], _ => .error (.usage none)
  | arg :: args, s =>
    match shape arg with
    | .long [] => .error (.usage none)
    | .long cs => do untilName flags args (← s.takeLong flags cs)
    | .short cs => do untilName flags args (← takeShort flags cs s)
    | .plain => do return (← s.settle, arg, args)

end Scan

namespace CommandName

/-- All commands. -/
def all : List CommandName := [list, emulate, scan, makeStages, detectOs]

/-- The name of a command. -/
def name : CommandName → String
  | list => "list"
  | emulate => "emulate"
  | scan => "scan"
  | makeStages => "makestages"
  | detectOs => "detect-os"

/-- The options that every command has. -/
def commonFlags : List Flag := [.switch .verbose, .switch .quiet, .switch .help]

/-- The options before the name of a command. -/
def outerFlags : List Flag := commonFlags ++ [.switch .version]

/-- The options of a command, in the order of its help. -/
def flags : CommandName → List Flag
  | list => commonFlags
  | emulate =>
    [.setting .phy, .switch .verbose, .setting .profile, .switch .quiet, .setting .vendorId,
      .setting .productId, .setting .mutations, .setting .record, .switch .help]
  | scan =>
    [.setting .phy, .switch .verbose, .switch .quiet, .setting .timeout, .switch .waitForTimeout,
      .switch .help]
  | makeStages =>
    [.setting .phy, .switch .verbose, .setting .profile, .switch .quiet, .setting .vendorId,
      .setting .productId, .setting .stageFile, .switch .help]
  | detectOs => [.setting .phy, .switch .verbose, .switch .quiet, .switch .help]

/-- The command with a name. -/
def ofName? (s : String) : Option CommandName := all.find? fun c => c.name = s

end CommandName

/-- A profile and what the user sets on top of it. -/
structure ProfileChoice where
  name : String
  vendorId : Option UInt16 := none
  productId : Option UInt16 := none
  deriving DecidableEq, Repr

/-- A command with its options. -/
inductive Command where
  | list
  | emulate (phy : Option PhySelection) (profile : ProfileChoice) (mutations record : Option String)
  | scan (phy : Option PhySelection) (wait : Bool)
  | makeStages (phy : Option PhySelection) (profile : ProfileChoice) (stageFile : String)
  | detectOs
  deriving DecidableEq, Repr

/-- The profile that settings choose, which must be given. -/
def Settings.profileChoice (s : Settings) : Except Stop ProfileChoice :=
  match s.profile with
  | none => .error (.usage none)
  | some name => .ok ⟨name, s.vendorId, s.productId⟩

/-- The command that a name and settings stand for. -/
def Settings.command (s : Settings) : CommandName → Except Stop Command
  | .list => .ok .list
  | .emulate => do return .emulate s.phy (← s.profileChoice) s.mutations s.record
  | .scan => .ok (.scan s.phy s.waitForTimeout)
  | .makeStages =>
    match s.stageFile with
    | none => .error (.usage none)
    | some file => do return .makeStages s.phy (← s.profileChoice) file
  | .detectOs => .ok .detectOs

/-- What the arguments ask for. -/
structure Invocation where
  command : Command
  verbose : Bool
  deriving DecidableEq, Repr

/-- Reads what follows the word `help`: nothing, or one topic. -/
def helpTopic : List String → Stop
  | [] => .help .program
  | ["help"] => .help .help
  | [name] =>
    match CommandName.ofName? name with
    | some name => .help (.command name)
    | none => .usage none
  | _ => .usage none

/-- What ends the reading of a command's own arguments: help is help on the command. -/
def Stop.within (name : CommandName) : Stop → Stop
  | .help _ => .help (.command name)
  | stop => stop

/-- Reads the arguments of the program. -/
def Invocation.ofArguments (args : List String) : Except Stop Invocation := do
  let (outer, name, rest) ← Scan.untilName CommandName.outerFlags args {}
  match CommandName.ofName? name with
  | none => .error (if name = "help" then helpTopic rest else .usage none)
  | some name =>
    let inner ← (Scan.arguments name.flags rest {}).mapError (Stop.within name)
    let command ← inner.command name
    if inner.isContradictory || outer.isContradictory then .error (.usage none)
    else return ⟨command, 0 < outer.verbosity || 0 < inner.verbosity⟩

end Cli
end UsbGadget
