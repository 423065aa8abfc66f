/-
# The program

Reads the files that a command asks for, runs it, writes what it leaves behind
and reports how it ended.  Where a file cannot be written the command is run
again with that in sight, so that it fails as a command does.
-/

import UsbGadget.Cli.Run

namespace UsbGadget
namespace Cli

/-- The file error that an error of the system stands for.  Some calls of the system give the
negative of a number. -/
def fileError : IO.Error → FileError
  | .noFileOrDirectory .. => .missing
  | .noSuchThing _ 6 _ => .noSuchDevice
  | .permissionDenied _ 13 _ => .permissionDenied
  | .resourceExhausted _ 28 _ => .noSpace
  | .inappropriateType _ code _ => if code = 21 || code = -21 then .isADirectory else .notADirectory
  | .invalidArgument _ code message =>
    if code = 36 || code = -36 then .nameTooLong else .other message
  | e => .other (toString e)

/-- Reads a file.  One that is no text is taken as empty, which is no JSON either. -/
def readInput (path : String) : IO (String × Except FileError String) := do
  match ← (IO.FS.readBinFile path).toBaseIO with
  | .ok bytes => return (path, .ok ((String.fromUTF8? bytes).getD ""))
  | .error e => return (path, .error (fileError e))

/-- Writes a text to a file. -/
def writeText (path text : String) : IO Unit :=
  IO.FS.withFile path .write fun h => do
    h.putStr text
    h.flush

/-- Writes a file, or says why it cannot be written. -/
def writeOutput (file : String × String) : IO (Option (String × FileError)) := do
  match ← (writeText file.1 file.2).toBaseIO with
  | .ok _ => return none
  | .error e => return some (file.1, fileError e)

/-- The entry of a list for a path. -/
def entryOf {α : Type} (entries : List (String × α)) (path : String) : Option α :=
  (entries.find? fun e => e.1 = path).map (·.2)

/-- The files that have been read, some of which cannot be written. -/
def filesOf (inputs : List (String × Except FileError String))
    (refusals : List (String × FileError)) : Files where
  read path := (entryOf inputs path).getD (.error .missing)
  sink path := (entryOf refusals path).elim (.ok .file) .error

/-- Prints what is to be printed and reports how the program ends. -/
def finish (printed : String) (exit : Exit) : IO UInt32 := do
  IO.print printed
  match exit with
  | .success => pure ()
  | .failure chain => IO.eprintln ("Error: " ++ ": ".intercalate chain)
  | .usage reason => IO.eprintln ("error: " ++ reason.getD "invalid arguments")
  return exit.code

/-- Runs what the arguments ask for. -/
def execute (i : Invocation) : IO UInt32 := do
  let inputs ← i.command.inputs.mapM readInput
  let outcome := i.run (filesOf inputs [])
  let refusals ← outcome.written.filterMapM writeOutput
  let outcome := if refusals.isEmpty then outcome else i.run (filesOf inputs refusals)
  finish outcome.printed outcome.exit

end Cli
end UsbGadget

/-- The program. -/
def main (args : List String) : IO UInt32 :=
  match UsbGadget.Cli.Invocation.ofArguments args with
  | .ok i => UsbGadget.Cli.execute i
  | .error stop => UsbGadget.Cli.finish stop.outcome.1 stop.outcome.2
