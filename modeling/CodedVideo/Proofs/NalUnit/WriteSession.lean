import CodedVideo.Proofs.Bits.WriteSession
import CodedVideo.Proofs.NalUnit.EscapedWriter

/-!
# Escaped and plain writers side by side

An escaped writer emits bytes while it is written to, and a plain writer only keeps bits. In every
session both show the same, and what the escaped writer has emitted is at any time the escaped form
of the whole bytes of the plain one, whatever the widths of the writes that the bits came in.

Main statement: the finished unit is the escaped form of the plain bytes.
-/

namespace CodedVideo

/-! ## Whole bytes -/

namespace Bits

/-- The whole bytes of a bit string are packed in front of the byte that is not full. -/
theorem take_pack {bytes : List UInt8} {pending : List Bool} (short : pending.length < 8) :
    (pack (ofBytes bytes ++ pending)).take ((ofBytes bytes ++ pending).length / 8) = bytes := by
  have aligned : (ofBytes bytes).length % 8 = 0 := by
    rw [length_ofBytes]
    omega
  have whole_eq : (ofBytes bytes ++ pending).length / 8 = bytes.length := by
    rw [List.length_append, length_ofBytes]
    omega
  rw [pack_append aligned, pack_ofBytes, whole_eq, List.take_left]

end Bits

/-! ## Bits of a plain writer -/

namespace PlainWriter

@[simp]
theorem bits_append (writer : PlainWriter) (bits : List Bool) :
    (BitSink.append writer bits).bits = writer.bits ++ bits := by
  induction bits generalizing writer with
  | nil => exact (List.append_nil writer.bits).symm
  | cons bit bits inductionHypothesis =>
      rw [BitSink.append, List.foldl_cons, ← BitSink.append, inductionHypothesis,
        List.append_cons writer.bits]
      rfl

end PlainWriter

namespace EscapedWriter

/-- The escaped writer has emitted the whole bytes of the plain writer, holds the bits that are left
and would finish with the escaped form of all bytes. -/
structure Follows (escaped : EscapedWriter) (plain : PlainWriter) : Prop where
  bitsWritten_eq : BitSink.bitsWritten escaped = BitSink.bitsWritten plain
  isByteAligned_eq : BitSink.isByteAligned escaped = BitSink.isByteAligned plain
  data_eq : escaped.data = Emulation.insert (plain.bytes.take (BitSink.bitsWritten plain / 8))
  pending_eq : escaped.pending.length = BitSink.bitsWritten plain % 8
  escapes_eq : (plain.bytes.take (BitSink.bitsWritten plain / 8)).length + escaped.escapes =
    (Emulation.insert (plain.bytes.take (BitSink.bitsWritten plain / 8))).length
  finish_eq : escaped.finish = Emulation.insert plain.bytes

/-- A writer that holds the bits of a plain writer follows it. -/
theorem Holds.follows {escaped : EscapedWriter} {plain : PlainWriter}
    (holds : escaped.Holds plain.bits) : escaped.Follows plain := by
  have written : BitSink.bitsWritten escaped = BitSink.bitsWritten plain := holds.bitsWritten_eq
  obtain ⟨payload, finish_eq, payload_eq⟩ := holds.finish_padded
  obtain ⟨whole, emitted, bits_eq⟩ := holds.emitted
  have short := holds.pending_short
  have whole_eq : plain.bytes.take (BitSink.bitsWritten plain / 8) = whole := by
    change (Bits.pack plain.bits).take (plain.bits.length / 8) = whole
    rw [← bits_eq]
    exact Bits.take_pack short
  constructor
  · exact written
  · rw [BitSink.isByteAligned, BitSink.isByteAligned, written]
  · rw [whole_eq]
    exact emitted.data_eq
  · rw [← written]
    simp only [BitSink.bitsWritten]
    omega
  · rw [whole_eq, ← emitted.data_eq]
    exact emitted.escapes_eq
  · rw [finish_eq, PlainWriter.bytes]
    congr 1
    exact Bits.ofBytes_inj (payload_eq.trans (Bits.ofBytes_pack plain.bits).symm)

end EscapedWriter

/-! ## Sessions -/

namespace BitSink

/-- Writers that were new in front of a session show the same in it, and behind it the escaped one
holds the bits of the plain one. -/
theorem session_holds (fields : List CodedField) :
    (session fields ({} : EscapedWriter)).1 = (session fields ({} : PlainWriter)).1 ∧
      (session fields ({} : EscapedWriter)).2.Holds
        (session fields ({} : PlainWriter)).2.bits := by
  have alike : bitsWritten ({} : EscapedWriter) = bitsWritten ({} : PlainWriter) := rfl
  obtain ⟨observations_eq, bits, escaped_eq, plain_eq⟩ := session_alike fields alike
  refine ⟨observations_eq, ?_⟩
  rw [escaped_eq, plain_eq, PlainWriter.bits_append]
  exact EscapedWriter.holds_nil.append bits

end BitSink

/-- In every session an escaped and a plain writer show the same, the escaped writer has emitted the
escaped form of the whole bytes written so far and finishes with that of all bytes, and a field that
is refused changes neither of them. -/
theorem EscapedWriter.session_follows (fields : List CodedField) :
    let escaped := BitSink.session fields ({} : EscapedWriter)
    let plain := BitSink.session fields ({} : PlainWriter)
    escaped.1 = plain.1 ∧ escaped.2.Follows plain.2 ∧
      ∀ (field : CodedField) (fault : BitFault), (field.perform plain.2).1 = .error fault →
        field.perform escaped.2 = (.error fault, escaped.2) ∧
          field.perform plain.2 = (.error fault, plain.2) := by
  intro escaped plain
  obtain ⟨observations_eq, holds⟩ := BitSink.session_holds fields
  refine ⟨observations_eq, holds.follows, ?_⟩
  intro field fault ended
  cases refusal : field.refusal? with
  | none =>
      rw [CodedField.perform_eq_ok refusal] at ended
      contradiction
  | some other =>
      rw [CodedField.perform_eq_error refusal] at ended
      cases ended
      exact ⟨CodedField.perform_eq_error refusal _, CodedField.perform_eq_error refusal _⟩

/-- Behind a byte a number of 33 bits is refused. -/
theorem EscapedWriter.session_follows_refusal :
    let escaped := BitSink.session [.bits 5 8, .wideBits 7 65] ({} : EscapedWriter)
    let plain := BitSink.session [.bits 5 8, .wideBits 7 65] ({} : PlainWriter)
    (CodedField.bits 1 33).perform escaped.2 = (.error (.invalidBitCount 33), escaped.2) ∧
      (CodedField.bits 1 33).perform plain.2 = (.error (.invalidBitCount 33), plain.2) :=
  (EscapedWriter.session_follows [.bits 5 8, .wideBits 7 65]).2.2 (.bits 1 33)
    (.invalidBitCount 33) rfl

end CodedVideo
