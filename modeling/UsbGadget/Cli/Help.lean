/-
# Help

What is printed when help is asked for: what the topic is about, how it is
called, and tables of commands, arguments and options.  An option has a line
with its letter, its name, the name of its value and a sentence:

| letter | name | value | sentence |
| --- | --- | --- | --- |
| `-P,` | `--phy` | `<PHY_INFO>` | Physical layer: … |
| `-v,` | `--verbose...` | | Verbosity … |
| | `--vid` | `<VID>` | Override the vendor id … |

* `length_padded`: columns of a table are as wide as their widest entry at least.
-/

import UsbGadget.Cli.Arguments

namespace UsbGadget
namespace Cli

/-- Text with spaces behind it, at least `width` characters in all. -/
def padded (width : Nat) (s : String) : String :=
  s ++ String.ofList (List.replicate (width - s.length) ' ')

/-- A padded text is as wide as asked for, and wider only when the text is. -/
theorem length_padded (width : Nat) (s : String) :
    (padded width s).length = max width s.length := by
  simp [padded]
  omega

/-- The name of the value of an option. -/
def Setting.valueName : Setting → String
  | phy => "PHY_INFO"
  | profile => "DEVICE_CLASS"
  | vendorId => "VID"
  | productId => "PID"
  | mutations | record | stageFile => "FILE"
  | timeout => "TIMEOUT"

namespace Flag

/-- An option as it is written, with its value: three points follow one that may be repeated. -/
def usage : Flag → String
  | setting s => "--" ++ (setting s).long ++ " <" ++ s.valueName ++ ">"
  | switch .verbose => "--" ++ (switch .verbose).long ++ "..."
  | switch s => "--" ++ (switch s).long

/-- The letter and the name of an option. -/
def heading (f : Flag) : String :=
  (match f.short? with
    | some c => String.ofList ['-', c, ',', ' ']
    | none => "    ") ++ f.usage

/-- What an option does. -/
def summary : Flag → String
  | setting .phy =>
    "Physical layer: `replay:<trace.json>`. Hardware backends (`fd:<port>`, `gadgetfs`) are " ++
      "recognised but not available in this build"
  | setting .profile => "Device profile name (see `phantom list`)"
  | setting .vendorId => "Override the vendor id (decimal or 0x-prefixed hex)"
  | setting .productId => "Override the product id (decimal or 0x-prefixed hex)"
  | setting .mutations => "JSON table mapping stage names to replacement descriptor bytes"
  | setting .record => "Write every transport call of the session to this JSON file"
  | setting .timeout => "Timeout for each device, in seconds [default: 5]"
  | setting .stageFile => "File to store the list of stages in"
  | switch .verbose => "Verbosity (-v debug, -vv trace). `RUST_LOG` takes precedence"
  | switch .quiet => "Only print warnings and errors"
  | switch .help => "Print help"
  | switch .version => "Print version"
  | switch .waitForTimeout =>
    "Keep each device active until the timeout even once it is known to be supported"

end Flag

namespace CommandName

/-- What a command does. -/
def summary : CommandName → String
  | list => "List the built-in device profiles (descriptions with -v)"
  | emulate => "Emulate one device profile"
  | scan => "Find out which device profiles the host supports"
  | makeStages => "Record the mutation stages a session goes through"
  | detectOs => "Guess the host operating system from its USB traffic"

/-- The options that a command must have. -/
def required : CommandName → List Setting
  | list | scan | detectOs => []
  | emulate => [.profile]
  | makeStages => [.profile, .stageFile]

/-- How a command is called. -/
def usage (c : CommandName) : String :=
  "phantom " ++ c.name ++ " [OPTIONS]" ++
    String.join (c.required.map fun s => " " ++ (Flag.setting s).usage)

end CommandName

namespace HelpTopic

/-- A table of two columns under a title. -/
def table (title : String) (rows : List (String × String)) : String :=
  let width := (rows.map (·.1.length)).foldl max 0
  title ++ ":\n" ++ String.join (rows.map fun r => "  " ++ padded width r.1 ++ "  " ++ r.2 ++ "\n")

/-- The table of options. -/
def options (flags : List Flag) : String :=
  table "Options" (flags.map fun f => (f.heading, f.summary))

/-- A page of help. -/
def page (summary usage : String) (tables : List String) : String :=
  summary ++ "\n\nUsage: " ++ usage ++ "\n" ++ String.join (tables.map fun t => "\n" ++ t)

/-- What the word `help` does as a command. -/
def helpSummary : String := "Print this message or the help of the given subcommand(s)"

/-- The help on a topic. -/
def text : HelpTopic → String
  | program =>
    page "Emulate USB devices against a host" "phantom [OPTIONS] <COMMAND>"
      [table "Commands"
        (CommandName.all.map (fun c => (c.name, c.summary)) ++ [("help", helpSummary)]),
        options CommandName.outerFlags]
  | command name => page name.summary name.usage [options name.flags]
  | help =>
    page helpSummary "phantom help [COMMAND]..."
      [table "Arguments" [("[COMMAND]...", "Print help for the subcommand(s)")]]

end HelpTopic

end Cli
end UsbGadget
