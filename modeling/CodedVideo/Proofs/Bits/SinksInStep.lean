import CodedVideo.Proofs.Bits.WriteSession

/-!
# Sinks in step

Two sinks are in step when they have taken equally many bits and stay so with every bit that both
take. Writers of such sinks cannot be told apart: every field is written to both or refused with the
same fault, and leaves them in step again.
-/

namespace CodedVideo

variable {σ τ : Type} [BitSink σ] [BitSink τ]

/-- Related sinks have taken equally many bits, and a bit that both take leaves them related. -/
structure SinksInStep (related : σ → τ → Prop) : Prop where
  bitsWritten_eq : ∀ {first : σ} {second : τ}, related first second →
    BitSink.bitsWritten first = BitSink.bitsWritten second
  push_related : ∀ {first : σ} {second : τ}, related first second → ∀ bit,
    related (BitSink.push first bit) (BitSink.push second bit)

/-- Two writes are refused with the same fault, or leave related sinks. -/
inductive WriteAlike (related : σ → τ → Prop) : Except BitFault σ → Except BitFault τ → Prop where
  | refused (fault : BitFault) : WriteAlike related (.error fault) (.error fault)
  | written {first : σ} {second : τ} (sinks : related first second) :
      WriteAlike related (.ok first) (.ok second)

omit [BitSink σ] [BitSink τ] in
/-- Writes that are alike go on alike. -/
theorem WriteAlike.bind {related : σ → τ → Prop} {first : Except BitFault σ}
    {second : Except BitFault τ} {next : σ → Except BitFault σ} {otherNext : τ → Except BitFault τ}
    (parts : WriteAlike related first second)
    (nexts : ∀ {sink : σ} {other : τ}, related sink other →
      WriteAlike related (next sink) (otherNext other)) :
    WriteAlike related (first >>= next) (second >>= otherNext) := by
  cases parts with
  | refused fault => exact .refused fault
  | written sinks => exact nexts sinks

namespace SinksInStep

variable {related : σ → τ → Prop} (inStep : SinksInStep related) {first : σ} {second : τ}

include inStep

theorem append_related (sinks : related first second) (bits : List Bool) :
    related (BitSink.append first bits) (BitSink.append second bits) := by
  induction bits generalizing first second with
  | nil => exact sinks
  | cons bit bits inductionHypothesis => exact inductionHypothesis (inStep.push_related sinks bit)

theorem writeBits_alike (sinks : related first second) (value width : Nat) :
    WriteAlike related (BitSink.writeBits value width first)
      (BitSink.writeBits value width second) := by
  rw [BitSink.writeBits, BitSink.writeBits]
  split
  · exact .refused _
  · exact .written (inStep.append_related sinks _)

theorem writeWideBits_alike (sinks : related first second) (value width : Nat) :
    WriteAlike related (BitSink.writeWideBits value width first)
      (BitSink.writeWideBits value width second) := by
  rw [BitSink.writeWideBits, BitSink.writeWideBits]
  split
  · exact .refused _
  · exact .written (inStep.append_related sinks _)

theorem writeCodeNumber_alike (sinks : related first second) (number : Nat) :
    WriteAlike related (BitSink.writeCodeNumber number first)
      (BitSink.writeCodeNumber number second) :=
  (inStep.writeBits_alike sinks _ _).bind fun rests => inStep.writeWideBits_alike rests _ _

theorem stuffZeros_alike (sinks : related first second) :
    WriteAlike related (BitSink.stuffZeros first) (BitSink.stuffZeros second) := by
  rw [BitSink.stuffZeros, BitSink.stuffZeros, inStep.bitsWritten_eq sinks]
  exact inStep.writeBits_alike sinks _ _

theorem write_alike (sinks : related first second) (field : CodedField) :
    WriteAlike related (field.write first) (field.write second) := by
  cases field with
  | bits value width => exact inStep.writeBits_alike sinks value width
  | wideBits value width => exact inStep.writeWideBits_alike sinks value width
  | flag value => exact inStep.writeBits_alike sinks value.toNat 1
  | unsigned value => exact inStep.writeCodeNumber_alike sinks value
  | signed value => exact inStep.writeCodeNumber_alike sinks (ExpGolomb.ofSigned value)
  | alignment => exact inStep.stuffZeros_alike sinks
  | trailing =>
      exact (inStep.writeBits_alike sinks _ 1).bind fun rests => inStep.stuffZeros_alike rests

/-- A field that is written in place ends alike. -/
theorem perform_alike (sinks : related first second) (field : CodedField) :
    (field.perform first).1 = (field.perform second).1 ∧
      related (field.perform first).2 (field.perform second).2 := by
  have alike := inStep.write_alike sinks field
  rw [CodedField.perform_apply, CodedField.perform_apply, WriteM.ofAtOnce, WriteM.ofAtOnce]
  revert alike
  generalize field.write first = written
  generalize field.write second = otherWritten
  intro alike
  cases alike with
  | refused fault => exact ⟨rfl, sinks⟩
  | written rests => exact ⟨rfl, rests⟩

/-- Related sinks show the same in every session, and stay related. -/
theorem session_related (sinks : related first second) (fields : List CodedField) :
    (BitSink.session fields first).1 = (BitSink.session fields second).1 ∧
      related (BitSink.session fields first).2 (BitSink.session fields second).2 := by
  induction fields generalizing first second with
  | nil => exact ⟨rfl, sinks⟩
  | cons field fields inductionHypothesis =>
      rcases inStep.perform_alike sinks field with ⟨result_eq, rests⟩
      rcases inductionHypothesis rests with ⟨observed_eq, lasts⟩
      have seen_eq : BitSink.observe (field.perform first).1 (field.perform first).2 =
          BitSink.observe (field.perform second).1 (field.perform second).2 := by
        simp only [BitSink.observe, BitSink.isByteAligned, result_eq, inStep.bitsWritten_eq rests]
      exact ⟨List.cons_eq_cons.mpr ⟨seen_eq, observed_eq⟩, lasts⟩

end SinksInStep

end CodedVideo
