import CodedVideo.Avc.SequenceParameterSet
import CodedVideo.Proofs.Avc.SliceGrammar

/-!
# The grammar of AVC sequence parameter sets

No part in front of the trailing bits is decoded by looking ahead, and each error names a structure.
A set is decoded in stages, between which the number of stored bytes is noted; but for those two
numbers the stages are one decoder.
-/

namespace CodedVideo.Avc

open Decoder (Attributed Blind)

/-! ## Scaling lists -/

namespace ScalingList

instance blind_weightsAfter (remaining last : Nat) (weights : List Nat) :
    Blind (weightsAfter remaining last weights) := by
  induction remaining generalizing last weights with
  | zero => exact Blind.done _
  | succ remaining inductionHypothesis =>
      rw [weightsAfter]
      infer_instance

instance blind_coded (size : Nat) : Blind (coded size) := by
  rw [coded]
  infer_instance

instance blind_decoder (slot : Nat) : Blind (decoder slot) := by
  rw [decoder]
  infer_instance

instance blind_slots (count : Nat) : Blind (slots count) := by
  rw [slots]
  infer_instance

end ScalingList

/-! ## Video usability information -/

instance BufferSchedule.blind_decoder : Blind BufferSchedule.decoder := by
  rw [BufferSchedule.decoder]
  infer_instance

instance BufferModel.blind_decoder : Blind BufferModel.decoder := by
  rw [BufferModel.decoder, BufferModel.fields]
  infer_instance

instance Timing.blind_decoder : Blind Timing.decoder := by
  rw [Timing.decoder]
  infer_instance

instance BitstreamRestriction.blind_decoder : Blind BitstreamRestriction.decoder := by
  rw [BitstreamRestriction.decoder]
  infer_instance

instance VideoUsability.blind_decoder : Blind VideoUsability.decoder := by
  rw [VideoUsability.decoder, VideoUsability.fields]
  infer_instance

/-! ## The whole set -/

instance SampleFormat.blind_decoder : Blind SampleFormat.decoder := by
  rw [SampleFormat.decoder]
  infer_instance

instance PictureOrder.blind_decoder : Blind PictureOrder.decoder := by
  apply Blind.unsigned.sequence
  intro kind
  split <;> infer_instance

namespace SequenceParameterSet

instance blind_unitHeader : Blind unitHeader := by
  rw [unitHeader]
  infer_instance

instance attributed_unitHeader : Attributed unitHeader := by
  rw [unitHeader]
  infer_instance

instance blind_fields : Blind fields := by
  rw [fields]
  infer_instance

/-! ## One decoder for all stages -/

/-- The set without the numbers of stored bytes in which it was read. -/
def withoutByteCounts (set : SequenceParameterSet) : SequenceParameterSet :=
  { set with bytesBeforeUsability := 0, bytesRead := 0 }

/-- What stands in front of the trailing bits. -/
def contentDecoder : Decoder SequenceParameterSet := do
  unitHeader
  let (set, usabilityPresent) ← Decoder.located structureName fields
  let usability ← Decoder.located structureName
    (Decoder.optional usabilityPresent VideoUsability.decoder)
  return withoutByteCounts { set with usability }

/-- The grammar of a unit, whose stages note no numbers of stored bytes. -/
def unitDecoder : Decoder SequenceParameterSet := do
  let set ← contentDecoder
  Decoder.located structureName Decoder.trailingBits
  return set

instance blind_contentDecoder : Blind contentDecoder := by
  rw [contentDecoder]
  infer_instance

instance attributed_contentDecoder : Attributed contentDecoder := by
  rw [contentDecoder]
  infer_instance

/-- The stages leave the reader that the grammar leaves. -/
theorem run_unitDecoder (reader : EscapedReader) :
    unitDecoder.run reader = ((stages reader).1.map withoutByteCounts, (stages reader).2) := by
  simp only [stages, unitDecoder, contentDecoder, Staged.decode_bind_apply,
    Staged.bytesRead_bind_apply, Decoder.monadBind_eq, Decoder.bind_assoc, Decoder.run_bind]
  rcases unitHeader.run reader with ⟨error | _, behindHeader⟩
  · rfl
  simp only
  rcases (Decoder.located structureName fields).run behindHeader with
    ⟨error | ⟨set, usabilityPresent⟩, behindFields⟩
  · rfl
  simp only
  rcases (Decoder.located structureName (Decoder.optional usabilityPresent
    VideoUsability.decoder)).run behindFields with ⟨error | usability, behindUsability⟩
  · rfl
  simp only [pure, Decoder.run]
  rcases (Decoder.located structureName Decoder.trailingBits).run behindUsability with
    ⟨error | _, last⟩
  · rfl
  · rfl

theorem map_withoutByteCounts_ofUnit (unit : List UInt8) :
    (ofUnit unit).map withoutByteCounts = unitDecoder.decodeUnit unit := by
  rw [Decoder.decodeUnit, run_unitDecoder]
  rfl

end SequenceParameterSet

end CodedVideo.Avc
