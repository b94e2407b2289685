import CodedVideo.Bits.Sink
import CodedVideo.Proofs.ExpGolomb

/-!
# Writes as appended bits

A write that is not refused appends bits that depend on what is written, and for the bits up to a
byte boundary on the number of bits in front of them.
-/

namespace CodedVideo

/-- A sink that counts each bit it takes. -/
class CountingSink (σ : Type) [BitSink σ] : Prop where
  bitsWritten_push : ∀ (sink : σ) (bit : Bool),
    BitSink.bitsWritten (BitSink.push sink bit) = BitSink.bitsWritten sink + 1

instance : CountingSink PlainWriter where
  bitsWritten_push _ _ := List.length_append

namespace BitSink

variable {σ : Type} [BitSink σ]

theorem append_append (sink : σ) (front back : List Bool) :
    append sink (front ++ back) = append (append sink front) back :=
  List.foldl_append

theorem bitsWritten_append [CountingSink σ] (sink : σ) (bits : List Bool) :
    bitsWritten (append sink bits) = bitsWritten sink + bits.length := by
  induction bits generalizing sink with
  | nil => rfl
  | cons bit bits inductionHypothesis =>
      rw [append, List.foldl_cons, ← append, inductionHypothesis,
        CountingSink.bitsWritten_push, List.length_cons]
      omega

/-- A flag is written as one bit. -/
theorem writeFlag_eq (flag : Bool) (sink : σ) : writeFlag flag sink = .ok (append sink [flag]) := by
  cases flag <;> rfl

/-- A code number is written as its code, which opens with no more zeros than one write takes. -/
theorem writeCodeNumber_eq {number : Nat} (few : ExpGolomb.leadingZeros number ≤ 32) (sink : σ) :
    writeCodeNumber number sink = .ok (append sink (ExpGolomb.code number)) := by
  have zerosFit : ¬ 32 < ExpGolomb.leadingZeros number := by omega
  have wholeFits : ¬ 64 < ExpGolomb.leadingZeros number + 1 := by omega
  simp only [writeCodeNumber, writeBits, writeWideBits, if_neg zerosFit, if_neg wholeFits, bind,
    Except.bind]
  rw [← append_append, Bits.ofNat_zero, ExpGolomb.ofNat_succ, ExpGolomb.code]

/-- The bits up to a byte boundary are zeros. -/
theorem stuffZeros_eq (sink : σ) :
    stuffZeros sink =
      .ok (append sink (List.replicate (Bits.toBoundary (bitsWritten sink)) false)) := by
  have few : ¬ 32 < Bits.toBoundary (bitsWritten sink) := by
    simp only [Bits.toBoundary]
    omega
  rw [stuffZeros, writeBits, if_neg few, Bits.ofNat_zero]

/-- The trailing bits are a one and the zeros up to a byte boundary. -/
theorem writeTrailingBits_eq [CountingSink σ] (sink : σ) :
    writeTrailingBits sink =
      .ok (append sink
        (true :: List.replicate (Bits.toBoundary (bitsWritten sink + 1)) false)) := by
  have written := bitsWritten_append sink [true]
  simp only [writeTrailingBits, writeFlag_eq, bind, Except.bind]
  rw [stuffZeros_eq, ← append_append, written]
  rfl

end BitSink

end CodedVideo
