import CodedVideo.NalUnit.EscapedWriter
import CodedVideo.Proofs.Bits.Sink
import CodedVideo.Proofs.Bits.Strings
import CodedVideo.Proofs.NalUnit.Emulation

/-!
# What an escaped writer holds

A writer holds the bits that were pushed to it: those of the payload that it has emitted, and those
of the byte that is not full yet. The payload determines the output and the counts that the writer
keeps of it.

Main statement: behind whole bytes, the finished unit escapes exactly the bits that were pushed.
-/

namespace CodedVideo

open Emulation (zerosBefore preventionByte zerosWritten zeroRun)

namespace Emulation

/-- A byte behind a payload is escaped behind the zeros that the payload leaves. -/
theorem insert_append_singleton (payload : List UInt8) (byte : UInt8) :
    insert (payload ++ [byte]) =
      insert payload ++
        if zerosWritten 0 payload = zerosBefore ∧ byte ≤ preventionByte then [preventionByte, byte]
        else [byte] := by
  rw [insert, insertAfter_append]
  simp only [insertAfter]
  split <;> rfl

theorem zerosWritten_append_singleton (payload : List UInt8) (byte : UInt8) :
    zerosWritten 0 (payload ++ [byte]) =
      if zerosWritten 0 payload = zerosBefore ∧ byte ≤ preventionByte then zeroRun 0 byte
      else zeroRun (zerosWritten 0 payload) byte := by
  rw [zerosWritten_append]
  simp only [zerosWritten]

end Emulation

namespace EscapedWriter

/-- The output and its counts are those of an escaped payload. -/
structure Emitted (writer : EscapedWriter) (payload : List UInt8) : Prop where
  data_eq : writer.data = Emulation.insert payload
  zeros_eq : writer.zeros = zerosWritten 0 payload
  emitted_eq : writer.emitted = payload.length
  escapes_eq : payload.length + writer.escapes = writer.data.length

/-- The bits that were pushed are those of the emitted payload and those of the byte that is not
full yet. -/
structure Holds (writer : EscapedWriter) (bits : List Bool) : Prop where
  pending_short : writer.pending.length < 8
  emitted : ∃ payload, writer.Emitted payload ∧ Bits.ofBytes payload ++ writer.pending = bits

/-! ## Emitting a byte -/

/-- An emitted byte stands behind the payload. -/
theorem Emitted.emit {writer : EscapedWriter} {payload : List UInt8}
    (emitted : writer.Emitted payload) (byte : UInt8) :
    (writer.emit byte).Emitted (payload ++ [byte]) := by
  have dataLength := emitted.escapes_eq
  simp only [data, Array.length_toList] at dataLength
  simp only [EscapedWriter.emit]
  split
  · next inserted =>
    have isInserted := inserted
    rw [emitted.zeros_eq] at isInserted
    constructor
    · rw [Emulation.insert_append_singleton, if_pos isInserted, ← emitted.data_eq]
      simp [data]
    · rw [Emulation.zerosWritten_append_singleton, if_pos isInserted]
    · simp [emitted.emitted_eq]
    · simp only [data, Array.length_toList, Array.size_push, List.length_append,
        List.length_singleton]
      omega
  · next notInserted =>
    have isNotInserted := notInserted
    rw [emitted.zeros_eq] at isNotInserted
    constructor
    · rw [Emulation.insert_append_singleton, if_neg isNotInserted, ← emitted.data_eq]
      simp [data]
    · rw [Emulation.zerosWritten_append_singleton, if_neg isNotInserted, ← emitted.zeros_eq]
    · simp [emitted.emitted_eq]
    · simp only [data, Array.length_toList, Array.size_push, List.length_append,
        List.length_singleton]
      omega

/-! ## Pushing bits -/

instance : CountingSink EscapedWriter where
  bitsWritten_push writer bit := by
    simp only [BitSink.push, push, emit]
    split
    · next isLast =>
      split <;> simp only [BitSink.bitsWritten, isLast, List.length_nil] <;> omega
    · simp only [BitSink.bitsWritten, List.length_append, List.length_singleton]
      omega

/-- A new writer holds nothing. -/
theorem holds_nil : ({} : EscapedWriter).Holds [] where
  pending_short := Nat.zero_lt_succ 7
  emitted := ⟨[], ⟨rfl, rfl, rfl, rfl⟩, rfl⟩

/-- A writer holds the bit that is pushed behind the others. -/
theorem Holds.push {writer : EscapedWriter} {bits : List Bool} (holds : writer.Holds bits)
    (bit : Bool) : (writer.push bit).Holds (bits ++ [bit]) := by
  obtain ⟨payload, emitted, rfl⟩ := holds.emitted
  have short := holds.pending_short
  simp only [EscapedWriter.push]
  split
  · next isLast =>
    have isByte : (writer.pending ++ [bit]).length = 8 := by simp [isLast]
    have opened : ({ writer with pending := [] } : EscapedWriter).Emitted payload :=
      ⟨emitted.data_eq, emitted.zeros_eq, emitted.emitted_eq, emitted.escapes_eq⟩
    have noneWait : (({ writer with pending := [] } : EscapedWriter).emit
        (Bits.toByte (writer.pending ++ [bit]))).pending = [] := by
      simp only [emit]
      split <;> rfl
    constructor
    · rw [noneWait]
      exact Nat.zero_lt_succ 7
    · exists payload ++ [Bits.toByte (writer.pending ++ [bit])]
      constructor
      · exact opened.emit _
      · simp only [noneWait, Bits.ofBytes_append, Bits.ofBytes_cons, Bits.ofBytes_nil,
          List.append_nil, List.append_assoc, Bits.ofByte_toByte isByte]
  · next isNotLast =>
    constructor
    · simp only [List.length_append, List.length_singleton]
      omega
    · exists payload
      constructor
      · exact ⟨emitted.data_eq, emitted.zeros_eq, emitted.emitted_eq, emitted.escapes_eq⟩
      · rw [List.append_assoc]

/-- A writer holds all bits that are appended. -/
theorem Holds.append {writer : EscapedWriter} {bits : List Bool} (holds : writer.Holds bits)
    (more : List Bool) : (BitSink.append writer more).Holds (bits ++ more) := by
  induction more generalizing writer bits with
  | nil =>
      rw [List.append_nil]
      exact holds
  | cons bit more inductionHypothesis =>
      have following := inductionHypothesis (holds.push bit)
      rw [List.append_assoc] at following
      exact following

/-- A writer counts the bits that it holds. -/
theorem Holds.bitsWritten_eq {writer : EscapedWriter} {bits : List Bool}
    (holds : writer.Holds bits) : BitSink.bitsWritten writer = bits.length := by
  obtain ⟨payload, emitted, rfl⟩ := holds.emitted
  simp only [BitSink.bitsWritten, emitted.emitted_eq, List.length_append, Bits.length_ofBytes]
  omega

/-! ## The finished unit -/

/-- Behind whole bytes the finished unit escapes the bits that the writer holds, with as many
inserted bytes as the writer has counted. -/
theorem Holds.finish {writer : EscapedWriter} {bits : List Bool} (holds : writer.Holds bits)
    (aligned : bits.length % 8 = 0) :
    Bits.ofBytes (Emulation.remove writer.finish) = bits ∧
      Emulation.count writer.finish = writer.escapes := by
  obtain ⟨payload, emitted, rfl⟩ := holds.emitted
  have short := holds.pending_short
  have noneWait : writer.pending = [] := by
    rw [List.length_append, Bits.length_ofBytes] at aligned
    apply List.eq_nil_of_length_eq_zero
    omega
  have finish_eq : writer.finish = Emulation.insert payload := by
    simp only [EscapedWriter.finish, noneWait, List.isEmpty_nil, if_true]
    exact emitted.data_eq
  constructor
  · rw [finish_eq, Emulation.remove_insert, noneWait, List.append_nil]
  · have counted := emitted.escapes_eq
    rw [emitted.data_eq] at counted
    rw [finish_eq, Emulation.count, Emulation.remove_insert]
    omega

/-- The finished unit escapes the bits that the writer holds, with zeros up to the byte boundary
behind them. -/
theorem Holds.finish_padded {writer : EscapedWriter} {bits : List Bool}
    (holds : writer.Holds bits) :
    ∃ payload, writer.finish = Emulation.insert payload ∧
      Bits.ofBytes payload = bits ++ List.replicate (Bits.toBoundary bits.length) false := by
  obtain ⟨payload, emitted, rfl⟩ := holds.emitted
  have short := holds.pending_short
  rw [List.length_append, Bits.length_ofBytes]
  by_cases noneWait : writer.pending = []
  · have aligned : Bits.toBoundary (8 * payload.length + writer.pending.length) = 0 := by
      rw [noneWait, Bits.toBoundary, List.length_nil]
      omega
    refine ⟨payload, ?_, ?_⟩
    · simp only [EscapedWriter.finish, noneWait, List.isEmpty_nil, if_true]
      exact emitted.data_eq
    · rw [aligned, noneWait, List.replicate_zero, List.append_nil, List.append_nil]
  · have waiting : writer.pending.length ≠ 0 := mt List.eq_nil_of_length_eq_zero noneWait
    have filled : Bits.toBoundary (8 * payload.length + writer.pending.length) =
        8 - writer.pending.length := by
      rw [Bits.toBoundary]
      omega
    have isByte : (writer.pending ++
        List.replicate (8 - writer.pending.length) false).length = 8 := by
      rw [List.length_append, List.length_replicate]
      omega
    have whole : ({ writer with pending := [] } : EscapedWriter).Emitted payload :=
      ⟨emitted.data_eq, emitted.zeros_eq, emitted.emitted_eq, emitted.escapes_eq⟩
    refine ⟨payload ++ [Bits.padToByte writer.pending], ?_, ?_⟩
    · rw [EscapedWriter.finish, if_neg (mt List.isEmpty_iff.mp noneWait)]
      exact (whole.emit _).data_eq
    · rw [filled, Bits.ofBytes_append, Bits.ofBytes_cons, Bits.ofBytes_nil, List.append_nil,
        Bits.padToByte, Bits.ofByte_toByte isByte, List.append_assoc]

end EscapedWriter

end CodedVideo
