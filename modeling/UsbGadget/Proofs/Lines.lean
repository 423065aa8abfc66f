/-
# Lines do not depend on how a stream comes in

A stream is cut at every carriage return, and there is one way to do so: `pieces`
does it byte by byte (`Cdc.Cuts.pieces_eq`).  A buffer looks for the last
carriage return, and splits what stands before it; that comes to the same
(`Cdc.LineBuffer.push_eq_pieces`).

A buffer takes the stream in as it comes, in pieces that end anywhere: it cuts
what it has waited with and what is new.  What it has given then is the cut of
the whole (`Cdc.Cuts.append`), wherever the pieces end
(`Cdc.LineBuffer.pushAll_eq_push`).  So a receiver holds at all times the lines
of all that came in (`Cdc.LineReceiver.Holds.foldl_receive`).
-/

import Mathlib.Tactic.SplitIfs
import UsbGadget.Cdc.Lines

namespace UsbGadget
namespace Cdc

/-- The lines of a stream, without the bytes that end them, and what follows the last of them. -/
def pieces : Bytes → List Bytes × Bytes
  | [] => ([], [])
  | b :: rest =>
    let (lines, tail) := pieces rest
    if b = carriageReturn then ([] :: lines, tail)
    else
      match lines with
      | [] => ([], b :: tail)
      | line :: lines => ((b :: line) :: lines, tail)

/-- The stream is the lines, each with a carriage return behind it, and then the rest; no line and
no rest has a carriage return in it. -/
structure Cuts (stream : Bytes) (lines : List Bytes) (rest : Bytes) : Prop where
  joined : lines.flatMap (· ++ [carriageReturn]) ++ rest = stream
  lines : ∀ line ∈ lines, carriageReturn ∉ line
  rest : carriageReturn ∉ rest

/-- An empty stream has no lines and no rest. -/
theorem cuts_nil : Cuts [] [] [] := ⟨rfl, List.forall_mem_nil _, List.not_mem_nil⟩

/-! ### There is one way to cut a stream -/

/-- A carriage return ends an empty line in front of the others. -/
theorem pieces_carriageReturn (stream : Bytes) :
    pieces (carriageReturn :: stream) = ([] :: (pieces stream).1, (pieces stream).2) := by
  rw [pieces]
  exact if_pos rfl

/-- Any other byte goes to the first line, or to the rest if there is no line. -/
theorem pieces_cons {b : UInt8} (hb : b ≠ carriageReturn) (stream : Bytes) :
    pieces (b :: stream) =
      match (pieces stream).1 with
      | [] => ([], b :: (pieces stream).2)
      | line :: lines => ((b :: line) :: lines, (pieces stream).2) := by
  rw [pieces]
  exact if_neg hb

/-- A carriage return is in a string just if it is the first byte or in the rest. -/
theorem not_mem_cons {b : UInt8} {bytes : Bytes} :
    carriageReturn ∉ b :: bytes ↔ b ≠ carriageReturn ∧ carriageReturn ∉ bytes := by
  rw [List.mem_cons, not_or, ne_comm]

/-- A stream without a carriage return is all rest. -/
theorem pieces_of_not_mem {rest : Bytes} (h : carriageReturn ∉ rest) :
    pieces rest = ([], rest) := by
  induction rest with
  | nil => rfl
  | cons b rest ih =>
    obtain ⟨hb, hrest⟩ := not_mem_cons.1 h
    rw [pieces_cons hb, ih hrest]

/-- What stands before the first carriage return is the first line. -/
theorem pieces_line {line : Bytes} (h : carriageReturn ∉ line) (stream : Bytes) :
    pieces (line ++ carriageReturn :: stream) =
      (line :: (pieces stream).1, (pieces stream).2) := by
  induction line with
  | nil => exact pieces_carriageReturn stream
  | cons b line ih =>
    obtain ⟨hb, hline⟩ := not_mem_cons.1 h
    rw [List.cons_append, pieces_cons hb, ih hline]

/-- **There is one way to cut a stream**, and `pieces` finds it. -/
theorem Cuts.pieces_eq {stream : Bytes} {lines : List Bytes} {rest : Bytes}
    (h : Cuts stream lines rest) : pieces stream = (lines, rest) := by
  obtain ⟨rfl, hlines, hrest⟩ := h
  induction lines with
  | nil => exact pieces_of_not_mem hrest
  | cons line lines ih =>
    obtain ⟨hline, hlines⟩ := List.forall_mem_cons.1 hlines
    rw [List.flatMap_cons, List.append_assoc, List.append_assoc, List.singleton_append,
      pieces_line hline, ih hlines]

/-- What `pieces` finds is a cut of the stream. -/
theorem cuts_pieces (stream : Bytes) : Cuts stream (pieces stream).1 (pieces stream).2 := by
  induction stream with
  | nil => exact cuts_nil
  | cons b stream ih =>
    obtain ⟨hjoined, hlines, hrest⟩ := ih
    by_cases hb : b = carriageReturn
    · rw [hb, pieces_carriageReturn]
      refine ⟨congrArg (carriageReturn :: ·) hjoined, ?_, hrest⟩
      exact List.forall_mem_cons.2 ⟨List.not_mem_nil, hlines⟩
    · rw [pieces_cons hb]
      cases hpieces : (pieces stream).1 with
      | nil =>
        rw [hpieces] at hjoined
        exact ⟨congrArg (b :: ·) hjoined, List.forall_mem_nil _, not_mem_cons.2 ⟨hb, hrest⟩⟩
      | cons line lines =>
        rw [hpieces] at hjoined hlines
        obtain ⟨hline, hlines⟩ := List.forall_mem_cons.1 hlines
        refine ⟨congrArg (b :: ·) hjoined, ?_, hrest⟩
        exact List.forall_mem_cons.2 ⟨not_mem_cons.2 ⟨hb, hline⟩, hlines⟩

/-! ### The last carriage return -/

/-- Without a last carriage return there is none. -/
theorem not_mem_of_lastReturn?_eq_none {stream : Bytes} (h : lastReturn? stream = none) :
    carriageReturn ∉ stream := by
  induction stream with
  | nil => exact List.not_mem_nil
  | cons b stream ih =>
    rw [lastReturn?] at h
    split at h
    · cases h
    · next hrest =>
      split_ifs at h with hb
      exact not_mem_cons.2 ⟨hb, ih hrest⟩

/-- The last carriage return stands at its position, and there is none behind it. -/
theorem eq_of_lastReturn?_eq_some {stream : Bytes} {last : Nat}
    (h : lastReturn? stream = some last) :
    stream = stream.take last ++ carriageReturn :: stream.drop (last + 1) ∧
      carriageReturn ∉ stream.drop (last + 1) := by
  induction stream generalizing last with
  | nil => cases h
  | cons b stream ih =>
    rw [lastReturn?] at h
    split at h
    · next position hposition =>
      obtain rfl := Option.some.inj h
      obtain ⟨hsplit, hrest⟩ := ih hposition
      exact ⟨congrArg (b :: ·) hsplit, hrest⟩
    · next hrest =>
      split_ifs at h with hb
      obtain rfl := Option.some.inj h
      exact ⟨congrArg (· :: stream) hb, not_mem_of_lastReturn?_eq_none hrest⟩

/-- What stands before the last carriage return, split at all others, is the lines. -/
theorem pieces_append_cons {rest : Bytes} (h : carriageReturn ∉ rest) (front : Bytes) :
    pieces (front ++ carriageReturn :: rest) = (front.splitOn carriageReturn, rest) := by
  induction front with
  | nil => rw [List.nil_append, pieces_carriageReturn, pieces_of_not_mem h, List.splitOn_nil]
  | cons b front ih =>
    rw [List.cons_append, List.splitOn_cons_eq_if_modifyHead]
    by_cases hb : b = carriageReturn
    · rw [if_pos (beq_iff_eq.2 hb), hb, pieces_carriageReturn, ih]
    · rw [if_neg fun heq => hb (beq_iff_eq.1 heq), pieces_cons hb, ih]
      obtain ⟨line, lines, hlines⟩ :=
        List.exists_cons_of_ne_nil (List.splitOn_ne_nil carriageReturn front)
      rw [hlines]
      rfl

/-- **A buffer cuts at every carriage return** what it has waited with and what is new. -/
theorem LineBuffer.push_eq_pieces (buffer : LineBuffer) (data : Bytes) :
    buffer.push data =
      ((pieces (buffer.pending ++ data)).1, ⟨(pieces (buffer.pending ++ data)).2⟩) := by
  rw [push]
  split
  · next hnone => rw [pieces_of_not_mem (not_mem_of_lastReturn?_eq_none hnone)]
  · next last hlast =>
    obtain ⟨hsplit, hrest⟩ := eq_of_lastReturn?_eq_some hlast
    have hpieces := pieces_append_cons hrest ((buffer.pending ++ data).take last)
    rw [← hsplit] at hpieces
    rw [hpieces]

/-! ### A stream that comes in pieces -/

/-- What follows the last line is cut again, together with what is new. -/
theorem Cuts.append {stream data : Bytes} {lines more : List Bytes} {rest tail : Bytes}
    (h : Cuts stream lines rest) (hmore : Cuts (rest ++ data) more tail) :
    Cuts (stream ++ data) (lines ++ more) tail where
  joined := by
    rw [List.flatMap_append, List.append_assoc, hmore.joined, ← List.append_assoc, h.joined]
  lines := List.forall_mem_append.2 ⟨h.lines, hmore.lines⟩
  rest := hmore.rest

/-- There are as many lines as carriage returns. -/
theorem Cuts.length_lines {stream : Bytes} {lines : List Bytes} {rest : Bytes}
    (h : Cuts stream lines rest) : lines.length = stream.count carriageReturn := by
  obtain ⟨rfl, hlines, hrest⟩ := h
  rw [List.count_append, List.count_eq_zero.2 hrest, Nat.add_zero]
  induction lines with
  | nil => rfl
  | cons line lines ih =>
    obtain ⟨hline, hlines⟩ := List.forall_mem_cons.1 hlines
    rw [List.flatMap_cons, List.count_append, List.count_append, List.count_eq_zero.2 hline,
      List.count_singleton_self, ← ih hlines, List.length_cons, Nat.zero_add, Nat.add_comm]

namespace LineBuffer

/-- Takes in pieces of a stream one after the other: the lines that each of them completes, and the
buffer with the rest. -/
def pushAll (buffer : LineBuffer) : List Bytes → List (List Bytes) × LineBuffer
  | [] => ([], buffer)
  | data :: parts =>
    let (lines, buffer) := buffer.push data
    let (more, buffer) := buffer.pushAll parts
    (lines :: more, buffer)

/-- What a buffer gives, and what it waits with, are the cut of all that it has. -/
theorem cuts_push (buffer : LineBuffer) (data : Bytes) :
    Cuts (buffer.pending ++ data) (buffer.push data).1 (buffer.push data).2.pending := by
  rw [push_eq_pieces]
  exact cuts_pieces (buffer.pending ++ data)

/-- What waits has no carriage return in it, so new data completes one line for each of its own. -/
theorem length_push {buffer : LineBuffer} (h : carriageReturn ∉ buffer.pending) (data : Bytes) :
    (buffer.push data).1.length = data.count carriageReturn := by
  rw [(buffer.cuts_push data).length_lines, List.count_append, List.count_eq_zero.2 h, Nat.zero_add]

/-- What a buffer has given, and what it gives for more pieces, is the cut of the whole stream. -/
theorem cuts_pushAll {buffer : LineBuffer} {stream : Bytes} {lines : List Bytes}
    (h : Cuts stream lines buffer.pending) (parts : List Bytes) :
    Cuts (stream ++ parts.flatten) (lines ++ (buffer.pushAll parts).1.flatten)
      (buffer.pushAll parts).2.pending := by
  induction parts generalizing buffer stream lines with
  | nil =>
    show Cuts (stream ++ []) (lines ++ []) buffer.pending
    rwa [List.append_nil, List.append_nil]
  | cons data parts ih =>
    have hrest := ih (h.append (buffer.cuts_push data))
    rwa [List.append_assoc, List.append_assoc] at hrest

/-- Every piece completes as many lines as it has carriage returns. -/
theorem map_length_pushAll {buffer : LineBuffer} (h : carriageReturn ∉ buffer.pending)
    (parts : List Bytes) :
    (buffer.pushAll parts).1.map List.length = parts.map (·.count carriageReturn) := by
  induction parts generalizing buffer with
  | nil => rfl
  | cons data parts ih =>
    exact congr (congrArg List.cons (length_push h data)) (ih (buffer.cuts_push data).rest)

/-- **Lines do not depend on where a stream is cut into pieces.**  A fresh buffer that takes in the
pieces gives the lines, and is left with the rest, that it would give and be left with if the whole
stream came in at once.  These lines, each with a carriage return behind it, and the rest are the
stream, and there is no other carriage return in them; and every piece completes as many lines as it
has carriage returns. -/
theorem pushAll_eq_push (parts : List Bytes) :
    let (lines, last) := pushAll {} parts
    (lines.flatten, last) = push {} parts.flatten ∧
      Cuts parts.flatten lines.flatten last.pending ∧
      lines.map List.length = parts.map (·.count carriageReturn) := by
  have hfresh : Cuts [] [] (LineBuffer.pending {}) := cuts_nil
  have hcuts : Cuts parts.flatten (pushAll {} parts).1.flatten (pushAll {} parts).2.pending :=
    cuts_pushAll hfresh parts
  refine ⟨?_, hcuts, map_length_pushAll List.not_mem_nil parts⟩
  rw [push_eq_pieces, List.nil_append, hcuts.pieces_eq]

end LineBuffer

namespace LineReceiver

/-- The receiver holds the lines of the stream as text, and waits with what follows the last of
them. -/
def Holds (receiver : LineReceiver) (stream : Bytes) : Prop :=
  ∃ lines rest, Cuts stream lines rest ∧ receiver = ⟨⟨rest⟩, lines.map Utf8.lossy⟩

/-- A fresh receiver holds the empty stream. -/
theorem holds_nil : Holds {} [] := ⟨[], [], cuts_nil, rfl⟩

/-- A receiver that takes in data holds the stream with the data behind it. -/
theorem Holds.receive {receiver : LineReceiver} {stream : Bytes} (h : receiver.Holds stream)
    (data : Bytes) : (receiver.receive data).Holds (stream ++ data) := by
  obtain ⟨lines, rest, hcuts, rfl⟩ := h
  refine ⟨_, _, hcuts.append (LineBuffer.cuts_push ⟨rest⟩ data), ?_⟩
  rw [List.map_append]
  rfl

/-- **However a stream comes in, the receiver holds its lines.** -/
theorem Holds.foldl_receive {receiver : LineReceiver} {stream : Bytes}
    (h : receiver.Holds stream) (pieces : List Bytes) :
    (pieces.foldl LineReceiver.receive receiver).Holds (stream ++ pieces.flatten) := by
  induction pieces generalizing receiver stream with
  | nil => rwa [List.flatten_nil, List.append_nil]
  | cons data pieces ih =>
    rw [List.foldl_cons, List.flatten_cons, ← List.append_assoc]
    exact ih (h.receive data)

end LineReceiver
end Cdc
end UsbGadget
