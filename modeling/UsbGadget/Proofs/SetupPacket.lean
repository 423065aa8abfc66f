/-
# SETUP packets are read as they are written

| bytes | field |
| --- | --- |
| 0 | `requestType` |
| 1 | `code` |
| 2–3 | `value`, low byte first |
| 4–5 | `index`, low byte first |
| 6–7 | `length`, low byte first |
| 8– | the data stage |

A string of fewer than eight bytes is no packet, and is refused with its length.
Every other string is the packet of exactly one request: what is read from it
writes it again, and what is written is read again (`Request.ofBytes_eq_ok_iff`).
So a device that takes in a packet does what it does with the request, and one
that takes in less stays as it is and tells nobody (`Device.handleSetup_packet`).
-/

import UsbGadget.Device
import UsbGadget.Proofs.LengthFields

namespace UsbGadget

namespace Request

/-- The string holds the request: every field at its place, and the data stage behind them. -/
structure StandsIn (r : Request) (raw : Bytes) : Prop where
  requestType : raw[0]? = some r.requestType
  code : raw[1]? = some r.code
  value : raw.wordAt? 2 = some r.value.toNat
  index : raw.wordAt? 4 = some r.index.toNat
  length : raw.wordAt? 6 = some r.length.toNat
  data : raw.drop 8 = r.data

/-- A SETUP packet has eight bytes. -/
theorem length_header (r : Request) : r.header.length = 8 := rfl

/-- The packet of a request, with its data behind it, stands for the request. -/
theorem standsIn_header (r : Request) : r.StandsIn (r.header ++ r.data) := by
  have hword : ∀ w : UInt16,
      some (Bytes.word w.toUInt8 (w >>> 8).toUInt8).toNat = some w.toNat := by
    intro w
    rw [Bytes.word_ofWord]
  exact ⟨rfl, rfl, hword r.value, hword r.index, hword r.length, rfl⟩

/-- What is written is read again. -/
theorem ofBytes_header (r : Request) : ofBytes (r.header ++ r.data) = .ok r := by
  show Except.ok (⟨r.requestType, r.code, Bytes.word _ _, Bytes.word _ _, Bytes.word _ _, r.data⟩ :
    Request) = .ok r
  rw [Bytes.word_ofWord, Bytes.word_ofWord, Bytes.word_ofWord]

/-- **Reading and writing a packet are inverse to each other.** -/
theorem ofBytes_eq_ok_iff {raw : Bytes} {r : Request} :
    ofBytes raw = .ok r ↔ r.header ++ r.data = raw := by
  constructor
  · intro h
    unfold ofBytes at h
    split at h
    · cases h
      rw [header, Bytes.ofWord_word, Bytes.ofWord_word, Bytes.ofWord_word]
      rfl
    · cases h
  · rintro rfl
    exact r.ofBytes_header

/-- A packet that lacks some of its eight bytes is refused with its length. -/
theorem ofBytes_of_length_lt {raw : Bytes} (h : raw.length < 8) :
    ofBytes raw = .error (.shortSetupPacket raw.length) := by
  unfold ofBytes
  split
  · simp only [List.length_cons] at h
    omega
  · rfl

/-- A packet holds a request just if it has all of its eight bytes. -/
theorem exists_ofBytes_iff (raw : Bytes) : (∃ r, ofBytes raw = .ok r) ↔ 8 ≤ raw.length := by
  constructor
  · rintro ⟨r, h⟩
    rw [← ofBytes_eq_ok_iff.1 h, List.length_append, length_header]
    omega
  · intro h
    unfold ofBytes
    split
    · exact ⟨_, rfl⟩
    · next hshort =>
      match raw, h with
      | _ :: _ :: _ :: _ :: _ :: _ :: _ :: _ :: _, _ => exact (hshort _ _ _ _ _ _ _ _ _ rfl).elim

end Request

namespace Device

/-- A packet that is read as a request is handled as the request. -/
theorem handleSetup_of_ofBytes {raw : Bytes} {r : Request} (h : Request.ofBytes raw = .ok r)
    (d : Device) : d.handleSetup raw = d.handleRequest r := by
  rw [handleSetup, h]

/-- **A device takes in a packet as the request that stands in it.**  What has fewer than eight
bytes is no packet: reading it fails with its length, and the device stays as it is and tells
nobody.  In every other string stands one request, which writes that string again, and any device
does with the string what it does with the request.  What any request writes, with eight bytes in
front of its data stage, is read as that request. -/
theorem handleSetup_packet :
    (∀ raw : Bytes, raw.length < 8 →
      Request.ofBytes raw = .error (.shortSetupPacket raw.length) ∧
        ∀ d : Device, d.handleSetup raw = (d, some (.shortSetupPacket raw.length))) ∧
    (∀ raw : Bytes, 8 ≤ raw.length → ∃ r : Request,
      Request.ofBytes raw = .ok r ∧ r.header ++ r.data = raw ∧ r.StandsIn raw ∧
        ∀ d : Device, d.handleSetup raw = d.handleRequest r) ∧
    (∀ r : Request, r.header.length = 8 ∧ Request.ofBytes (r.header ++ r.data) = .ok r) := by
  refine ⟨fun raw hshort => ?_, fun raw hlong => ?_, fun r => ⟨r.length_header, r.ofBytes_header⟩⟩
  · have hrefused := Request.ofBytes_of_length_lt hshort
    refine ⟨hrefused, fun d => ?_⟩
    rw [handleSetup, hrefused]
  · obtain ⟨r, hr⟩ := (Request.exists_ofBytes_iff raw).2 hlong
    have hwritten := Request.ofBytes_eq_ok_iff.1 hr
    have hstands := r.standsIn_header
    rw [hwritten] at hstands
    exact ⟨r, hr, hwritten, hstands, handleSetup_of_ofBytes hr⟩

end Device

end UsbGadget
