import CodedVideo.Proofs.Avc.SequenceGrammar
import CodedVideo.Proofs.SharedConfinement

/-!
# AVC grammars that stay within a unit

No field of an AVC grammar is wider than one read. Widths that are computed are either those of
fields that tell apart as many values as a derived size says, or are checked in front of the read.
Slice headers refer to parameter sets, and so do picture parameter sets with scaling lists.
-/

namespace CodedVideo.Avc

open Decoder (Attributed Confined)

variable {start : Nat} {mayRefer : Prop}

instance NalHeader.confined_decoder : Confined start mayRefer NalHeader.decoder := by
  unfold NalHeader.decoder
  infer_instance

/-! ## Sequence parameter sets -/

namespace ScalingList

instance confined_weightsAfter (remaining last : Nat) (weights : List Nat) :
    Confined start mayRefer (weightsAfter remaining last weights) := by
  induction remaining generalizing last weights with
  | zero => exact Confined.done _
  | succ remaining inductionHypothesis =>
      rw [weightsAfter]
      infer_instance

instance confined_slots (count : Nat) : Confined start mayRefer (slots count) := by
  unfold slots decoder coded
  infer_instance

end ScalingList

instance BufferModel.confined_decoder : Confined start mayRefer BufferModel.decoder := by
  unfold BufferModel.decoder fields BufferSchedule.decoder
  infer_instance

instance VideoUsability.confined_decoder : Confined start mayRefer VideoUsability.decoder := by
  unfold VideoUsability.decoder fields Timing.decoder BitstreamRestriction.decoder
  infer_instance

instance SampleFormat.confined_decoder : Confined start mayRefer SampleFormat.decoder := by
  unfold SampleFormat.decoder
  infer_instance

instance PictureOrder.confined_decoder : Confined start mayRefer PictureOrder.decoder := by
  refine Confined.behind fun kind => ?_
  split <;> infer_instance

namespace SequenceParameterSet

instance confined_unitHeader : Confined start mayRefer unitHeader := by
  unfold unitHeader
  infer_instance

instance confined_fields : Confined start mayRefer fields := by
  unfold fields
  infer_instance

instance confined_unitDecoder : Confined start mayRefer unitDecoder := by
  unfold unitDecoder contentDecoder
  infer_instance

instance attributed_unitDecoder : Attributed unitDecoder := by
  unfold unitDecoder
  infer_instance

end SequenceParameterSet

/-! ## Picture parameter sets -/

instance SliceGroupMap.confined_decoder (countMinus1 : Nat) :
    Confined start mayRefer (SliceGroupMap.decoder countMinus1) := by
  refine Confined.behind fun code => ?_
  unfold changingDecoder GroupRectangle.decoder
  split <;> infer_instance

instance TransformSettings.confined_scalingListDecoder (sequences : IdTable SequenceParameterSet)
    (sequenceId : Nat) (transform8x8 : Bool) :
    Confined start True (scalingListDecoder sequences sequenceId transform8x8) := by
  unfold scalingListDecoder
  split <;> infer_instance

namespace PictureParameterSet

variable (sequences : IdTable SequenceParameterSet)

instance confined_fields : Confined start True (fields sequences) := by
  unfold fields SliceGroups.decoder TransformSettings.decoder
  infer_instance

instance confined_decoder : Confined start True (decoder sequences) := by
  unfold decoder
  infer_instance

instance attributed_decoder : Attributed (decoder sequences) := by
  unfold decoder
  infer_instance

end PictureParameterSet

/-! ## Slices -/

namespace SliceHeader

instance raised_refusal (unitType : NalUnitType) : (refusal unitType).Raised mayRefer := by
  unfold refusal
  split <;> infer_instance

/-- A field whose computed width is checked fits one read. -/
instance confined_wideField (name : String) (width : Nat) :
    Confined start mayRefer (wideField name width) := by
  unfold wideField
  split
  · infer_instance
  · next fits =>
    have isAtMost : AtMost 32 width := ⟨Nat.le_of_not_lt fits⟩
    infer_instance

instance confined_typeDecoder : Confined start mayRefer typeDecoder := by
  refine Confined.behind fun code => ?_
  split <;> infer_instance

instance confined_findPictureSet (pictures : IdTable PictureParameterSet) (id : Nat) :
    Confined start True (findPictureSet pictures id) := by
  unfold findPictureSet
  split <;> infer_instance

instance confined_findSequenceSet (sequences : IdTable SequenceParameterSet) (id : Nat) :
    Confined start True (findSequenceSet sequences id) := by
  unfold findSequenceSet
  split <;> infer_instance

instance confined_pictureStructureDecoder (framesOnly : Bool) :
    Confined start mayRefer (pictureStructureDecoder framesOnly) := by
  unfold pictureStructureDecoder
  infer_instance

instance confined_pictureOrderDecoder (sequenceSet : SequenceParameterSet) (present : Bool) :
    Confined start mayRefer (pictureOrderDecoder sequenceSet present) := by
  unfold pictureOrderDecoder
  split <;> infer_instance

instance confined_activeReferencesDecoder (pictureSet : PictureParameterSet)
    (sliceType : SliceType) :
    Confined start mayRefer (activeReferencesDecoder pictureSet sliceType) := by
  unfold activeReferencesDecoder
  infer_instance

instance confined_listModificationEntry (code : Nat) :
    Confined start mayRefer (listModificationEntry code) := by
  unfold listModificationEntry
  split <;> infer_instance

instance confined_listModificationDecoder : Confined start mayRefer listModificationDecoder := by
  unfold listModificationDecoder
  infer_instance

instance confined_weightTableDecoder (chromaCoded bidirectional : Bool)
    (active : ActiveReferences) :
    Confined start mayRefer (weightTableDecoder chromaCoded bidirectional active) := by
  unfold weightTableDecoder predictionWeightDecoder
  infer_instance

instance confined_memoryOperationEntry (code : Nat) :
    Confined start mayRefer (memoryOperationEntry code) := by
  unfold memoryOperationEntry
  split <;> infer_instance

instance confined_markingDecoder (idr : Bool) : Confined start mayRefer (markingDecoder idr) := by
  unfold markingDecoder
  infer_instance

instance confined_deblockingDecoder : Confined start mayRefer deblockingDecoder := by
  unfold deblockingDecoder
  infer_instance

instance confined_changeCycleDecoder (sequenceSet : SequenceParameterSet)
    (pictureSet : PictureParameterSet) :
    Confined start mayRefer (changeCycleDecoder sequenceSet pictureSet) := by
  unfold changeCycleDecoder
  split <;> infer_instance

variable (sequences : IdTable SequenceParameterSet) (pictures : IdTable PictureParameterSet)

instance confined_fields (unit : NalHeader) :
    Confined start True (fields sequences pictures unit) := by
  unfold fields
  infer_instance

instance confined_decoder : Confined start True (decoder sequences pictures) := by
  unfold decoder
  infer_instance

end SliceHeader

instance SliceType.confined_decoder : Confined start mayRefer SliceType.decoder := by
  unfold SliceType.decoder
  infer_instance

end CodedVideo.Avc
