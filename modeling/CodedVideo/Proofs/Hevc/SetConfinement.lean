import CodedVideo.Proofs.Hevc.SetGrammar
import CodedVideo.Proofs.SharedConfinement

/-!
# HEVC parameter sets stay within a unit

The only width that is computed is that of the low bits of picture order counts, and the code it is
computed from is bounded.
-/

namespace CodedVideo.Hevc

-- The search for the instance of a parameter set has a step for each of its fields.
set_option synthInstance.maxSize 256

open Decoder (Attributed Confined Yields)

variable {start : Nat} {mayRefer : Prop}

/-- The fields of a unit header are located at the bits where they stand. -/
instance NalHeader.confined_decoder : Confined start mayRefer NalHeader.decoder := by
  refine Confined.flagAt (Nat.zero_le start) fun forbidden => ?_
  refine Confined.behind fun _ => ?_
  refine Confined.bitsAt (by omega) (by decide) fun code => ?_
  refine Confined.bitsAt (by omega) (by decide) fun layerId => ?_
  exact Confined.bitsAt (by omega) (by decide) fun temporalIdPlus1 => inferInstance

/-! ## Parts of parameter sets -/

instance ProfileBlock.confined_decoder : Confined start mayRefer ProfileBlock.decoder := by
  unfold ProfileBlock.decoder
  infer_instance

instance ProfileTierLevel.confined_decoder (profilePresent : Bool) (maxSubLayersMinus1 : Nat) :
    Confined start mayRefer (ProfileTierLevel.decoder profilePresent maxSubLayersMinus1) := by
  unfold ProfileTierLevel.decoder fields presenceFlags subLayerDecoder
  infer_instance

instance SubLayerOrdering.confined_listDecoder (eachCoded : Bool) (maxSubLayersMinus1 : Nat) :
    Confined start mayRefer (listDecoder eachCoded maxSubLayersMinus1) := by
  unfold listDecoder decoder
  infer_instance

instance ExtensionFlags.confined_decoder : Confined start mayRefer ExtensionFlags.decoder := by
  unfold ExtensionFlags.decoder fields
  infer_instance

instance SharedBufferModel.confined_decoder :
    Confined start mayRefer SharedBufferModel.decoder := by
  unfold SharedBufferModel.decoder fields UnitRemoval.decoder
  infer_instance

instance SubLayerBufferModel.confined_decoder (shared : SharedBufferModel) :
    Confined start mayRefer (SubLayerBufferModel.decoder shared) := by
  unfold SubLayerBufferModel.decoder BufferSchedule.decoder
  infer_instance

instance BufferModel.confined_decoder (sharedPresent : Bool) (maxSubLayersMinus1 : Nat) :
    Confined start mayRefer (BufferModel.decoder sharedPresent maxSubLayersMinus1) := by
  unfold BufferModel.decoder fields
  infer_instance

instance Timing.confined_decoder : Confined start mayRefer Timing.decoder := by
  unfold Timing.decoder
  infer_instance

instance VideoUsability.confined_decoder (maxSubLayersMinus1 : Nat) :
    Confined start mayRefer (VideoUsability.decoder maxSubLayersMinus1) := by
  unfold VideoUsability.decoder fields BitstreamRestriction.decoder
  infer_instance

/-! ## Scaling lists -/

namespace ScalingList

instance confined_coefficientsAfter (remaining last : Nat) (coefficients : List Nat) :
    Confined start mayRefer (coefficientsAfter remaining last coefficients) := by
  induction remaining generalizing last coefficients with
  | zero => exact Confined.done _
  | succ remaining inductionHypothesis =>
      unfold coefficientsAfter differenceDecoder
      infer_instance

/-- A list that cannot be copied is a malformed one. -/
theorem raised_of_copied {lists : List ScalingList} {sizeId matrixId distance : Nat} {error : Error}
    (failed : copied lists sizeId matrixId distance = .error error) : error.Raised mayRefer := by
  unfold copied at failed
  split at failed
  · cases failed
  split at failed
  · cases failed
    infer_instance
  split at failed
  · cases failed
  · cases failed
    infer_instance

instance confined_decoder (lists : List ScalingList) (place : Nat × Nat) :
    Confined start mayRefer (decoder lists place) := by
  have copies (distance : Nat) :
      Confined start mayRefer (Decoder.ofExcept (copied lists place.1 place.2 distance)) :=
    Confined.ofExcept fun _ failed => raised_of_copied failed
  unfold decoder explicitDecoder constantDecoder
  infer_instance

end ScalingList

namespace ScalingLists

instance confined_listsAfter (lists : List ScalingList) (places : List (Nat × Nat)) :
    Confined start mayRefer (listsAfter lists places) := by
  induction places generalizing lists with
  | nil => exact Confined.done lists
  | cons place places inductionHypothesis =>
      rw [listsAfter]
      infer_instance

instance confined_decoder : Confined start mayRefer decoder := by
  unfold decoder
  infer_instance

end ScalingLists

/-! ## Short-term sets -/

namespace ShortTermSet

instance confined_distanceDecoder : Confined start mayRefer distanceDecoder := by
  unfold distanceDecoder
  infer_instance

instance confined_picturesAfter (sign : Int) (count : Nat) (last : Int)
    (pictures : List ReferencePicture) :
    Confined start mayRefer (picturesAfter sign count last pictures) := by
  induction count generalizing last pictures with
  | zero => exact Confined.done _
  | succ count inductionHypothesis =>
      rw [picturesAfter]
      infer_instance

instance confined_predictedFrom (source : ShortTermSet) (prediction : SetPrediction) :
    Confined start mayRefer (predictedFrom source prediction) := by
  unfold predictedFrom candidateDecoder
  infer_instance

instance confined_predictedDecoder (sets : List ShortTermSet) (index total : Nat) :
    Confined start mayRefer (predictedDecoder sets index total) := by
  refine Confined.behind fun distanceMinus1 => ?_
  split <;> infer_instance

instance confined_decoder (sets : List ShortTermSet) (index total : Nat) :
    Confined start mayRefer (decoder sets index total) := by
  unfold decoder fields explicitDecoder
  infer_instance

instance confined_sequenceDecoder (total : Nat) :
    Confined start mayRefer (sequenceDecoder total) := by
  unfold sequenceDecoder
  infer_instance

end ShortTermSet

/-! ## Units -/

instance confined_setDecoder {α : Type} (unitType : NalUnitType) (structureName : String)
    (fields : Decoder α) [Confined start mayRefer fields] :
    Confined start mayRefer (setDecoder unitType structureName fields) := by
  unfold setDecoder
  infer_instance

instance confined_closeDecoder {α : Type} (structureName feature : String) (extended : α → Bool)
    (set : α) : Confined start mayRefer (closeDecoder structureName feature extended set) := by
  unfold closeDecoder
  infer_instance

instance attributed_closeDecoder {α : Type} (structureName feature : String)
    (extended : α → Bool) (set : α) :
    Attributed (closeDecoder structureName feature extended set) := by
  unfold closeDecoder
  infer_instance

/-! ## Video parameter sets -/

namespace VideoParameterSet

instance confined_bufferModelsDecoder (maxSubLayersMinus1 layerSetCount : Nat) :
    Confined start mayRefer (bufferModelsDecoder maxSubLayersMinus1 layerSetCount) := by
  unfold bufferModelsDecoder bufferModelDecoder
  infer_instance

instance confined_fields : Confined start mayRefer fields := by
  unfold fields layerSetDecoder
  infer_instance

instance confined_decoder : Confined start mayRefer decoder := by
  rw [decoder_eq]
  infer_instance

instance attributed_decoder : Attributed decoder := by
  rw [decoder_eq]
  infer_instance

end VideoParameterSet

/-! ## Sequence parameter sets -/

instance BlockSizes.confined_decoder : Confined start mayRefer BlockSizes.decoder := by
  unfold BlockSizes.decoder SequenceParameterSet.bounded
  infer_instance

instance Scaling.confined_decoder : Confined start mayRefer Scaling.decoder := by
  unfold Scaling.decoder
  infer_instance

instance PcmBlocks.confined_decoder : Confined start mayRefer PcmBlocks.decoder := by
  unfold PcmBlocks.decoder
  infer_instance

instance LongTermCandidate.confined_decoder (width : Nat) [AtMost 32 width] :
    Confined start mayRefer (LongTermCandidate.decoder width) := by
  unfold LongTermCandidate.decoder
  infer_instance

namespace SequenceParameterSet

instance confined_longTermDecoder (width : Nat) [AtMost 32 width] :
    Confined start mayRefer (longTermDecoder width) := by
  unfold longTermDecoder bounded
  infer_instance

instance confined_fields : Confined start mayRefer fields := by
  unfold fields bounded
  -- Nothing is asked of the parts in front of the bound on the width of long-term candidates.
  iterate 13 refine Confined.behind fun _ => ?_
  refine Confined.behind_yields Yields.boundedUnsigned fun log2MaxPictureOrderMinus4 inRange => ?_
  have isAtMost : AtMost 28 log2MaxPictureOrderMinus4 := ⟨by omega⟩
  infer_instance

instance confined_decoder : Confined start mayRefer decoder := by
  rw [decoder_eq]
  infer_instance

instance attributed_decoder : Attributed decoder := by
  rw [decoder_eq]
  infer_instance

end SequenceParameterSet

/-! ## Picture parameter sets -/

instance TileGrid.confined_decoder : Confined start mayRefer TileGrid.decoder := by
  unfold TileGrid.decoder TileSizes.decoder
  infer_instance

instance DeblockingControl.confined_decoder :
    Confined start mayRefer DeblockingControl.decoder := by
  unfold DeblockingControl.decoder
  infer_instance

instance PictureRangeExtension.confined_decoder (transformSkip : Bool) :
    Confined start mayRefer (PictureRangeExtension.decoder transformSkip) := by
  unfold PictureRangeExtension.decoder ChromaOffsetLists.decoder PictureParameterSet.bounded
  infer_instance

namespace PictureParameterSet

instance confined_fields : Confined start mayRefer fields := by
  unfold fields bounded
  infer_instance

instance confined_decoder : Confined start mayRefer decoder := by
  rw [decoder_eq]
  infer_instance

instance attributed_decoder : Attributed decoder := by
  rw [decoder_eq]
  infer_instance

end PictureParameterSet

end CodedVideo.Hevc
