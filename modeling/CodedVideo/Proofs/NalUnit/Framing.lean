import CodedVideo.Proofs.NalUnit.EscapedForm
import CodedVideo.Proofs.NalUnit.Sample
import CodedVideo.Proofs.NalUnit.WriteSession

/-!
# Escaped units in byte streams and in samples

An escaped unit holds no start code, and it ends as its payload does. Where the payload ends in a
byte other than zero, its escaped form can therefore stand in a byte stream behind either start code,
and in the sample that is made of the stream.

Main statement: what is framed is found again, in a byte stream and in the sample made of it.
-/

namespace CodedVideo

namespace Emulation

/-! ## Escaped units -/

/-- An escaped payload ends as the payload does. -/
theorem getLast?_insertAfter (zeros : Nat) (payload : List UInt8) :
    (insertAfter zeros payload).getLast? = payload.getLast? := by
  induction payload generalizing zeros with
  | nil => rfl
  | cons byte payload inductionHypothesis =>
      simp only [insertAfter]
      split
      · rw [List.getLast?_cons_cons, List.getLast?_cons, inductionHypothesis, List.getLast?_cons]
      · rw [List.getLast?_cons, inductionHypothesis, List.getLast?_cons]

end Emulation

namespace ByteStream

open Emulation (Terminated getLast?_insertAfter freeOfStartCodes_insert)

/-! ## Start codes -/

/-- The forms of a start code. -/
inductive StartCodeForm where
  /-- Two zero bytes and a byte 1. -/
  | short
  /-- Three zero bytes and a byte 1. -/
  | long
deriving DecidableEq, Repr

/-- The bytes of a start code. -/
def StartCodeForm.bytes : StartCodeForm → List UInt8
  | short => [0, 0, 1]
  | long => [0, 0, 0, 1]

/-- The number of zeros in front of the last three bytes of a start code. -/
def StartCodeForm.zerosInFront : StartCodeForm → Nat
  | short => 0
  | long => 1

theorem StartCodeForm.bytes_eq (form : StartCodeForm) :
    form.bytes = List.replicate form.zerosInFront 0 ++ [0, 0, 1] := by
  cases form <;> rfl

/-- The byte stream of payloads, each escaped and behind a start code of a given form. -/
def frame (units : List (StartCodeForm × List UInt8)) : List UInt8 :=
  units.flatMap fun unit => unit.1.bytes ++ Emulation.insert unit.2

theorem frame_eq (units : List (StartCodeForm × List UInt8)) :
    frame units =
      frameBehindZeros (units.map fun unit => (unit.1.zerosInFront, Emulation.insert unit.2)) := by
  rw [frame, frameBehindZeros, List.flatMap_map]
  simp only [StartCodeForm.bytes_eq]

/-! ## Escaped units in byte streams -/

/-- The escaped form of a payload that ends in a byte other than zero can stand in a byte stream. -/
theorem framable_insert {payload : List UInt8} (terminated : Terminated payload) :
    Framable (Emulation.insert payload) := by
  obtain ⟨last, ends, notZero⟩ := terminated
  have insertEnds : (Emulation.insert payload).getLast? = some last :=
    (getLast?_insertAfter 0 payload).trans ends
  refine ⟨?_, ⟨last, insertEnds, notZero⟩, freeOfStartCodes_insert payload 1 (by decide)⟩
  intro isEmpty
  rw [isEmpty] at insertEnds
  contradiction

/-- The units of a framed byte stream are the escaped payloads. -/
theorem split_frame {units : List (StartCodeForm × List UInt8)}
    (terminated : ∀ unit ∈ units, Terminated unit.2) :
    split (frame units) = units.map fun unit => Emulation.insert unit.2 := by
  have framable : ∀ unit ∈ units.map fun unit =>
      (unit.1.zerosInFront, Emulation.insert unit.2), Framable unit.2 := by
    rw [List.forall_mem_map]
    exact fun unit isThere => framable_insert (terminated unit isThere)
  have noneLeading : ¬ HoldsStartCode [] := by decide
  have split_eq := split_frameBehindZeros noneLeading framable 0
  rwa [List.nil_append, List.replicate_zero, List.append_nil, ← frame_eq, List.map_map] at split_eq

end ByteStream

/-! ## Finished units -/

/-- The bytes of a writer that ends with trailing bits end in a byte other than zero. -/
theorem PlainWriter.terminated_bytes (fields : List CodedField) :
    Emulation.Terminated
      (BitSink.session (fields ++ [.trailing]) ({} : PlainWriter)).2.bytes := by
  have accepted : CodedField.trailing.refusal? = none := rfl
  rw [BitSink.session_concat, CodedField.perform_eq_ok accepted, bytes, bits_append]
  generalize (BitSink.session fields ({} : PlainWriter)).2 = front
  change Emulation.Terminated (Bits.pack (front.bits ++
    true :: List.replicate (Bits.toBoundary (front.bits.length + 1)) false))
  have short : Bits.toBoundary (front.bits.length + 1) < 8 := by
    rw [Bits.toBoundary]
    omega
  have aligned : Bits.toBoundary (front.bits ++
      true :: List.replicate (Bits.toBoundary (front.bits.length + 1)) false).length = 0 := by
    rw [List.length_append, List.length_cons, List.length_replicate, Bits.toBoundary,
      Bits.toBoundary]
    omega
  apply Bits.exists_getLast?_of_ofBytes_eq short
  rw [Bits.ofBytes_pack, aligned, List.replicate_zero, List.append_nil]

/-- The unit of a writer that ends with trailing bits escapes a payload that ends in a byte other
than zero. -/
theorem EscapedWriter.exists_finish_eq_insert (fields : List CodedField) :
    ∃ payload, Emulation.Terminated payload ∧
      (BitSink.session (fields ++ [.trailing]) ({} : EscapedWriter)).2.finish =
        Emulation.insert payload := by
  have follows := (BitSink.session_holds (fields ++ [.trailing])).2.follows
  exact ⟨_, PlainWriter.terminated_bytes fields, follows.finish_eq⟩

/-! ## Framed payloads -/

/-- Payloads that end in a byte other than zero, as every writer leaves them behind trailing bits,
are found again in the byte stream that holds their escaped forms behind start codes, and in the
sample that is made of the byte stream where its length fields are large enough for them. -/
theorem Sample.unframe_frame (units : List (ByteStream.StartCodeForm × List UInt8))
    (terminated : ∀ unit ∈ units, Emulation.Terminated unit.2) :
    (ByteStream.split (ByteStream.frame units)).map Emulation.remove = units.map Prod.snd ∧
      (∀ size : LengthSize,
        (∀ unit ∈ units, (Emulation.insert unit.2).length < 1 <<< (8 * size.bytes)) →
          (do
            let sample ← ofByteStream (ByteStream.frame units) size.bytes
            let found ← split sample size.bytes
            return found.map Emulation.remove) = .ok (units.map Prod.snd)) ∧
      ∀ fields : List CodedField, ∃ payload, Emulation.Terminated payload ∧
        (BitSink.session (fields ++ [.trailing]) ({} : EscapedWriter)).2.finish =
          Emulation.insert payload := by
  have found_eq := ByteStream.split_frame terminated
  have removed_eq :
      (units.map fun unit => Emulation.insert unit.2).map Emulation.remove =
        units.map Prod.snd := by
    rw [List.map_map]
    apply List.map_congr_left
    intro unit _
    exact Emulation.remove_insert unit.2
  refine ⟨by rw [found_eq, removed_eq], ?_, EscapedWriter.exists_finish_eq_insert⟩
  intro size fit
  have insertsFit : ∀ escaped ∈ units.map (fun unit => Emulation.insert unit.2),
      Fits size.bytes escaped := by
    intro escaped isUnit
    obtain ⟨unit, isThere, rfl⟩ := List.mem_map.mp isUnit
    exact fit unit isThere
  have made : ofByteStream (ByteStream.frame units) size.bytes =
      .ok (records size.bytes (units.map fun unit => Emulation.insert unit.2)) := by
    rw [ofByteStream_eq_ok_iff, found_eq]
    exact ⟨size.isLengthSize_bytes, insertsFit, rfl⟩
  simp only [made, bind, Except.bind, split_records size.isLengthSize_bytes insertsFit, removed_eq]
  rfl

/-- Two payloads that hold start codes, behind start codes of both forms. -/
theorem Sample.unframe_frame_startCodes :
    (do
      let sample ← ofByteStream
        (ByteStream.frame [(.short, [103, 0, 0, 1, 128]), (.long, [0, 0, 0, 3])]) 1
      let found ← split sample 1
      return found.map Emulation.remove) = .ok [[103, 0, 0, 1, 128], [0, 0, 0, 3]] :=
  (Sample.unframe_frame [(.short, [103, 0, 0, 1, 128]), (.long, [0, 0, 0, 3])]
    (by simp [Emulation.Terminated])).2.1 .one (by decide)

end CodedVideo
