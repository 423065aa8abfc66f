/-
# Lines of a byte stream

A stream is cut at every carriage return.  Bytes come in pieces: what follows
the last carriage return waits for the next piece.

* `lastReturn?` finds the last carriage return of a stream;
* `LineBuffer.push` takes in a piece: what follows the last carriage return waits, and what stands
  before it is split into the lines that are complete.
-/

import UsbGadget.Text.Utf8

namespace UsbGadget
namespace Cdc

/-- The byte that ends a line. -/
def carriageReturn : UInt8 := 0x0d

/-- The position of the last carriage return of a stream, if there is one. -/
def lastReturn? : Bytes → Option Nat
  | [] => none
  | b :: rest =>
    match lastReturn? rest with
    | some position => some (position + 1)
    | none => if b = carriageReturn then some 0 else none

/-- The bytes of a line that is not complete yet. -/
structure LineBuffer where
  pending : Bytes := []
  deriving DecidableEq, Repr

/-- Takes in bytes: the lines that they complete, and the buffer with the rest. -/
def LineBuffer.push (buffer : LineBuffer) (data : Bytes) : List Bytes × LineBuffer :=
  let stream := buffer.pending ++ data
  match lastReturn? stream with
  | none => ([], ⟨stream⟩)
  | some last => ((stream.take last).splitOn carriageReturn, ⟨stream.drop (last + 1)⟩)

/-- A buffer together with the text of every line that has come in. -/
structure LineReceiver where
  buffer : LineBuffer := {}
  lines : List String := []
  deriving DecidableEq, Repr

/-- Takes in bytes and keeps the text of the lines that they complete. -/
def LineReceiver.receive (receiver : LineReceiver) (data : Bytes) : LineReceiver :=
  let (lines, buffer) := receiver.buffer.push data
  ⟨buffer, receiver.lines ++ lines.map Utf8.lossy⟩

end Cdc
end UsbGadget
