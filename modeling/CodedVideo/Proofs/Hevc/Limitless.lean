import CodedVideo.Proofs.Decoder.Limitless
import CodedVideo.Proofs.Hevc.SetGrammar

/-!
# HEVC grammars know no limit

Neither parameter sets nor slice segment headers fail because a limit is reached, whatever sets a
header refers to.
-/

namespace CodedVideo

-- The search for the instance of a grammar has a step for each of its fields.
set_option synthInstance.maxSize 256

open Decoder (Limitless)

/-! ## Shared structures -/

instance Window.limitless_decoder : Limitless Window.decoder := by
  unfold Window.decoder
  infer_instance

instance Weight.limitless_decoder : Limitless Weight.decoder := by
  unfold Weight.decoder
  infer_instance

instance Weight.limitless_pairDecoder : Limitless Weight.pairDecoder := by
  unfold Weight.pairDecoder
  infer_instance

instance SignalDescription.limitless_decoder : Limitless SignalDescription.decoder := by
  unfold SignalDescription.decoder CodedAspectRatio.decoder VideoSignalType.decoder
    ColourDescription.decoder ChromaLocation.decoder
  infer_instance

namespace Hevc

instance NalHeader.limitless_decoder : Limitless NalHeader.decoder := by
  unfold NalHeader.decoder
  infer_instance

/-! ## Parts of parameter sets -/

instance ProfileTierLevel.limitless_decoder (profilePresent : Bool) (maxSubLayersMinus1 : Nat) :
    Limitless (ProfileTierLevel.decoder profilePresent maxSubLayersMinus1) := by
  unfold ProfileTierLevel.decoder fields presenceFlags subLayerDecoder ProfileBlock.decoder
  infer_instance

instance SubLayerOrdering.limitless_listDecoder (eachCoded : Bool) (maxSubLayersMinus1 : Nat) :
    Limitless (listDecoder eachCoded maxSubLayersMinus1) := by
  unfold listDecoder decoder
  infer_instance

instance ExtensionFlags.limitless_decoder : Limitless ExtensionFlags.decoder := by
  unfold ExtensionFlags.decoder fields
  infer_instance

instance SharedBufferModel.limitless_decoder : Limitless SharedBufferModel.decoder := by
  unfold SharedBufferModel.decoder fields UnitRemoval.decoder
  infer_instance

instance SubLayerBufferModel.limitless_decoder (shared : SharedBufferModel) :
    Limitless (SubLayerBufferModel.decoder shared) := by
  unfold SubLayerBufferModel.decoder BufferSchedule.decoder
  infer_instance

instance BufferModel.limitless_decoder (sharedPresent : Bool) (maxSubLayersMinus1 : Nat) :
    Limitless (BufferModel.decoder sharedPresent maxSubLayersMinus1) := by
  unfold BufferModel.decoder fields
  infer_instance

instance Timing.limitless_decoder : Limitless Timing.decoder := by
  unfold Timing.decoder
  infer_instance

instance VideoUsability.limitless_decoder (maxSubLayersMinus1 : Nat) :
    Limitless (VideoUsability.decoder maxSubLayersMinus1) := by
  unfold VideoUsability.decoder fields BitstreamRestriction.decoder
  infer_instance

/-! ## Scaling lists -/

namespace ScalingList

instance limitless_coefficientsAfter (remaining last : Nat) (coefficients : List Nat) :
    Limitless (coefficientsAfter remaining last coefficients) := by
  induction remaining generalizing last coefficients with
  | zero => exact Limitless.done _
  | succ remaining inductionHypothesis =>
      unfold coefficientsAfter differenceDecoder
      infer_instance

/-- A list that cannot be copied is a malformed one. -/
theorem inData_of_copied {lists : List ScalingList} {sizeId matrixId distance : Nat} {error : Error}
    (failed : copied lists sizeId matrixId distance = .error error) : error.InData := by
  unfold copied at failed
  split at failed
  · cases failed
  split at failed
  · cases failed
    infer_instance
  split at failed
  · cases failed
  · cases failed
    infer_instance

instance limitless_decoder (lists : List ScalingList) (place : Nat × Nat) :
    Limitless (decoder lists place) := by
  have copies (distance : Nat) :
      Limitless (Decoder.ofExcept (copied lists place.1 place.2 distance)) :=
    Limitless.ofExcept fun _ failed => inData_of_copied failed
  unfold decoder explicitDecoder constantDecoder
  infer_instance

end ScalingList

namespace ScalingLists

instance limitless_listsAfter (lists : List ScalingList) (places : List (Nat × Nat)) :
    Limitless (listsAfter lists places) := by
  induction places generalizing lists with
  | nil => exact Limitless.done lists
  | cons place places inductionHypothesis =>
      rw [listsAfter]
      infer_instance

instance limitless_decoder : Limitless decoder := by
  unfold decoder
  infer_instance

end ScalingLists

/-! ## Short-term sets -/

namespace ShortTermSet

instance limitless_distanceDecoder : Limitless distanceDecoder := by
  unfold distanceDecoder
  infer_instance

instance limitless_picturesAfter (sign : Int) (count : Nat) (last : Int)
    (pictures : List ReferencePicture) : Limitless (picturesAfter sign count last pictures) := by
  induction count generalizing last pictures with
  | zero => exact Limitless.done _
  | succ count inductionHypothesis =>
      rw [picturesAfter]
      infer_instance

instance limitless_predictedDecoder (sets : List ShortTermSet) (index total : Nat) :
    Limitless (predictedDecoder sets index total) := by
  unfold predictedDecoder predictedFrom candidateDecoder
  refine Limitless.sequence inferInstance fun distanceMinus1 => ?_
  split <;> infer_instance

instance limitless_decoder (sets : List ShortTermSet) (index total : Nat) :
    Limitless (decoder sets index total) := by
  unfold decoder fields explicitDecoder
  infer_instance

instance limitless_sequenceDecoder (total : Nat) : Limitless (sequenceDecoder total) := by
  unfold sequenceDecoder
  infer_instance

end ShortTermSet

/-! ## Parameter sets -/

instance limitless_setDecoder {α : Type} (unitType : NalUnitType) (structureName : String)
    (fields : Decoder α) [Limitless fields] :
    Limitless (setDecoder unitType structureName fields) := by
  unfold setDecoder
  infer_instance

instance limitless_closeDecoder {α : Type} (structureName feature : String) (extended : α → Bool)
    (set : α) : Limitless (closeDecoder structureName feature extended set) := by
  unfold closeDecoder
  infer_instance

namespace VideoParameterSet

instance limitless_bufferModelsDecoder (maxSubLayersMinus1 layerSetCount : Nat) :
    Limitless (bufferModelsDecoder maxSubLayersMinus1 layerSetCount) := by
  unfold bufferModelsDecoder bufferModelDecoder
  infer_instance

instance limitless_fields : Limitless fields := by
  unfold fields layerSetDecoder
  infer_instance

instance limitless_decoder : Limitless decoder := by
  rw [decoder_eq]
  infer_instance

end VideoParameterSet

instance BlockSizes.limitless_decoder : Limitless BlockSizes.decoder := by
  unfold BlockSizes.decoder SequenceParameterSet.bounded
  infer_instance

instance Scaling.limitless_decoder : Limitless Scaling.decoder := by
  unfold Scaling.decoder
  infer_instance

instance PcmBlocks.limitless_decoder : Limitless PcmBlocks.decoder := by
  unfold PcmBlocks.decoder
  infer_instance

namespace SequenceParameterSet

instance limitless_longTermDecoder (width : Nat) : Limitless (longTermDecoder width) := by
  unfold longTermDecoder bounded LongTermCandidate.decoder
  infer_instance

instance limitless_fields : Limitless fields := by
  unfold fields bounded
  infer_instance

instance limitless_decoder : Limitless decoder := by
  rw [decoder_eq]
  infer_instance

end SequenceParameterSet

instance TileGrid.limitless_decoder : Limitless TileGrid.decoder := by
  unfold TileGrid.decoder TileSizes.decoder
  infer_instance

instance DeblockingControl.limitless_decoder : Limitless DeblockingControl.decoder := by
  unfold DeblockingControl.decoder
  infer_instance

instance PictureRangeExtension.limitless_decoder (transformSkip : Bool) :
    Limitless (PictureRangeExtension.decoder transformSkip) := by
  unfold PictureRangeExtension.decoder ChromaOffsetLists.decoder PictureParameterSet.bounded
  infer_instance

namespace PictureParameterSet

instance limitless_fields : Limitless fields := by
  unfold fields bounded
  infer_instance

instance limitless_decoder : Limitless decoder := by
  rw [decoder_eq]
  infer_instance

end PictureParameterSet

/-! ## Slices -/

instance SegmentStart.limitless_decoder (sequences : IdTable SequenceParameterSet)
    (pictures : IdTable PictureParameterSet) (unit : NalHeader) :
    Limitless (decoder sequences pictures unit) := by
  have picture (id : Nat) : Limitless (findPictureSet pictures id) := by
    unfold findPictureSet
    split <;> infer_instance
  have sequence (id : Nat) : Limitless (findSequenceSet sequences id) := by
    unfold findSequenceSet
    split <;> infer_instance
  have sliceType : Limitless typeDecoder := by
    refine Limitless.sequence inferInstance fun code => ?_
    split <;> infer_instance
  unfold decoder addressDecoder
  infer_instance

instance ShortTermChoice.limitless_decoder (sets : List ShortTermSet) :
    Limitless (decoder sets) := by
  unfold decoder ofSequenceDecoder ownDecoder
  infer_instance

instance LongTermReference.limitless_listDecoder (width : Nat)
    (candidates : List LongTermCandidate) : Limitless (listDecoder width candidates) := by
  have chosen : Limitless (chosenDecoder candidates) := by
    refine Limitless.sequence inferInstance fun index => ?_
    unfold highBitsDecoder
    split <;> infer_instance
  unfold listDecoder codedDecoder LongTermCandidate.decoder highBitsDecoder
  infer_instance

instance KeptPictures.limitless_decoder (sequenceSet : SequenceParameterSet) :
    Limitless (decoder sequenceSet) := by
  unfold decoder
  cases sequenceSet.longTermCandidates <;> infer_instance

instance WeightTable.limitless_decoder (chromaCoded bidirectional : Bool)
    (active : ActiveReferences) : Limitless (decoder chromaCoded bidirectional active) := by
  unfold decoder listDecoder weightDecoder
  infer_instance

instance InterFields.limitless_decoder (referring : ReferringStart) (sliceType : SliceType)
    (kept : KeptPictures) : Limitless (decoder referring sliceType kept) := by
  unfold decoder ActiveReferences.decoder ListModification.decoder
    ListModification.entriesDecoder CollocatedPicture.decoder
  infer_instance

instance SliceFields.limitless_decoder (unitType : NalUnitType) (referring : ReferringStart)
    (sliceType : SliceType) : Limitless (decoder unitType referring sliceType) := by
  unfold decoder DeblockingFields.decoder DeblockingFields.ownDecoder
  infer_instance

instance EntryPoints.limitless_decoder (size : Nat) : Limitless (decoder size) := by
  unfold decoder
  infer_instance

namespace SliceHeader

instance limitless_paddingDecoder : Limitless paddingDecoder := by
  unfold paddingDecoder zeroDecoder
  infer_instance

instance limitless_fieldsDecoder (sequences : IdTable SequenceParameterSet)
    (pictures : IdTable PictureParameterSet) (unit : NalHeader) :
    Limitless (fieldsDecoder sequences pictures unit) := by
  have fields (referring : ReferringStart) : Limitless (sliceFieldsDecoder unit referring) := by
    unfold sliceFieldsDecoder
    split <;> infer_instance
  unfold fieldsDecoder refuseExtensions extensionDecoder
  infer_instance

instance limitless_decoder (sequences : IdTable SequenceParameterSet)
    (pictures : IdTable PictureParameterSet) : Limitless (decoder sequences pictures) := by
  unfold decoder SegmentStart.unitDecoder
  infer_instance

end SliceHeader

end Hevc

end CodedVideo
