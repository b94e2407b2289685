import CodedVideo.Hevc.VideoParameterSet
import CodedVideo.Proofs.Hevc.SliceGrammar

/-!
# The grammar of HEVC parameter sets

No part in front of the trailing bits is decoded by looking ahead, and each error names a structure.
-/

namespace CodedVideo.Hevc

open Decoder (Attributed Blind)

/-! ## Profiles, tiers and levels -/

instance ProfileBlock.blind_decoder : Blind ProfileBlock.decoder := by
  rw [ProfileBlock.decoder]
  infer_instance

namespace ProfileTierLevel

instance blind_presenceFlags : Blind presenceFlags := by
  rw [presenceFlags]
  infer_instance

instance blind_subLayerDecoder (present : Bool × Bool) : Blind (subLayerDecoder present) := by
  rw [subLayerDecoder]
  infer_instance

instance blind_decoder (profilePresent : Bool) (maxSubLayersMinus1 : Nat) :
    Blind (decoder profilePresent maxSubLayersMinus1) := by
  rw [decoder, fields]
  infer_instance

end ProfileTierLevel

/-! ## Sub-layers and extensions -/

namespace SubLayerOrdering

instance blind_decoder : Blind decoder := by
  rw [decoder]
  infer_instance

instance blind_listDecoder (eachCoded : Bool) (maxSubLayersMinus1 : Nat) :
    Blind (listDecoder eachCoded maxSubLayersMinus1) := by
  rw [listDecoder]
  infer_instance

end SubLayerOrdering

instance ExtensionFlags.blind_decoder : Blind ExtensionFlags.decoder := by
  rw [ExtensionFlags.decoder, ExtensionFlags.fields]
  infer_instance

/-! ## Buffer models -/

instance BufferSchedule.blind_decoder (unitRemoval : Bool) :
    Blind (BufferSchedule.decoder unitRemoval) := by
  rw [BufferSchedule.decoder]
  infer_instance

instance UnitRemoval.blind_decoder : Blind UnitRemoval.decoder := by
  rw [UnitRemoval.decoder]
  infer_instance

namespace SharedBufferModel

instance blind_fields (nalPresent vclPresent : Bool) : Blind (fields nalPresent vclPresent) := by
  rw [fields]
  infer_instance

instance blind_decoder : Blind decoder := by
  rw [decoder]
  infer_instance

end SharedBufferModel

instance SubLayerBufferModel.blind_decoder (shared : SharedBufferModel) :
    Blind (SubLayerBufferModel.decoder shared) := by
  rw [SubLayerBufferModel.decoder]
  infer_instance

instance BufferModel.blind_decoder (sharedPresent : Bool) (maxSubLayersMinus1 : Nat) :
    Blind (BufferModel.decoder sharedPresent maxSubLayersMinus1) := by
  rw [BufferModel.decoder, BufferModel.fields]
  infer_instance

/-! ## Video usability information -/

instance Timing.blind_decoder : Blind Timing.decoder := by
  rw [Timing.decoder]
  infer_instance

instance BitstreamRestriction.blind_decoder : Blind BitstreamRestriction.decoder := by
  rw [BitstreamRestriction.decoder]
  infer_instance

instance VideoUsability.blind_decoder (maxSubLayersMinus1 : Nat) :
    Blind (VideoUsability.decoder maxSubLayersMinus1) := by
  rw [VideoUsability.decoder, VideoUsability.fields]
  infer_instance

/-! ## Scaling lists -/

namespace ScalingList

instance blind_constantDecoder : Blind constantDecoder := by
  rw [constantDecoder]
  infer_instance

instance blind_differenceDecoder : Blind differenceDecoder := by
  rw [differenceDecoder]
  infer_instance

instance blind_coefficientsAfter (remaining last : Nat) (coefficients : List Nat) :
    Blind (coefficientsAfter remaining last coefficients) := by
  induction remaining generalizing last coefficients with
  | zero => exact Blind.done _
  | succ remaining inductionHypothesis =>
      rw [coefficientsAfter]
      infer_instance

instance blind_explicitDecoder (sizeId matrixId : Nat) :
    Blind (explicitDecoder sizeId matrixId) := by
  rw [explicitDecoder]
  infer_instance

instance blind_decoder (lists : List ScalingList) (place : Nat × Nat) :
    Blind (decoder lists place) := by
  rw [decoder]
  infer_instance

end ScalingList

namespace ScalingLists

instance blind_listsAfter (lists : List ScalingList) (places : List (Nat × Nat)) :
    Blind (listsAfter lists places) := by
  induction places generalizing lists with
  | nil => exact Blind.done lists
  | cons place places inductionHypothesis =>
      rw [listsAfter]
      infer_instance

instance blind_decoder : Blind decoder := by
  rw [decoder]
  infer_instance

end ScalingLists

/-! ## Video parameter sets -/

namespace VideoParameterSet

instance blind_layerSetDecoder (maxLayerId : Nat) : Blind (layerSetDecoder maxLayerId) := by
  rw [layerSetDecoder]
  infer_instance

instance blind_bufferModelDecoder (maxSubLayersMinus1 index : Nat) :
    Blind (bufferModelDecoder maxSubLayersMinus1 index) := by
  rw [bufferModelDecoder]
  infer_instance

instance blind_bufferModelsDecoder (maxSubLayersMinus1 layerSetCount : Nat) :
    Blind (bufferModelsDecoder maxSubLayersMinus1 layerSetCount) := by
  rw [bufferModelsDecoder]
  infer_instance

instance blind_fields : Blind fields := by
  rw [fields]
  infer_instance

end VideoParameterSet

/-! ## Sequence parameter sets -/

instance SequenceParameterSet.blind_bounded (name : String) (limit : Nat) :
    Blind (SequenceParameterSet.bounded name limit) := by
  rw [SequenceParameterSet.bounded]
  infer_instance

instance BlockSizes.blind_decoder : Blind BlockSizes.decoder := by
  rw [BlockSizes.decoder]
  infer_instance

instance Scaling.blind_decoder : Blind Scaling.decoder := by
  rw [Scaling.decoder]
  infer_instance

instance PcmBlocks.blind_decoder : Blind PcmBlocks.decoder := by
  rw [PcmBlocks.decoder]
  infer_instance

instance ShortTermSet.blind_sequenceDecoder (total : Nat) :
    Blind (ShortTermSet.sequenceDecoder total) := by
  rw [ShortTermSet.sequenceDecoder]
  infer_instance

namespace SequenceParameterSet

instance blind_longTermDecoder (width : Nat) : Blind (longTermDecoder width) := by
  rw [longTermDecoder]
  infer_instance

instance blind_fields : Blind fields := by
  rw [fields]
  infer_instance

end SequenceParameterSet

/-! ## Picture parameter sets -/

instance TileSizes.blind_decoder (columnsMinus1 rowsMinus1 : Nat) :
    Blind (TileSizes.decoder columnsMinus1 rowsMinus1) := by
  rw [TileSizes.decoder]
  infer_instance

instance TileGrid.blind_decoder : Blind TileGrid.decoder := by
  rw [TileGrid.decoder]
  infer_instance

instance DeblockingControl.blind_decoder : Blind DeblockingControl.decoder := by
  rw [DeblockingControl.decoder]
  infer_instance

namespace PictureParameterSet

instance blind_bounded (name : String) (limit : Nat) : Blind (bounded name limit) := by
  rw [bounded]
  infer_instance

end PictureParameterSet

instance ChromaOffsetLists.blind_decoder : Blind ChromaOffsetLists.decoder := by
  rw [ChromaOffsetLists.decoder]
  infer_instance

instance PictureRangeExtension.blind_decoder (transformSkip : Bool) :
    Blind (PictureRangeExtension.decoder transformSkip) := by
  rw [PictureRangeExtension.decoder]
  infer_instance

instance PictureParameterSet.blind_fields : Blind PictureParameterSet.fields := by
  rw [PictureParameterSet.fields]
  infer_instance

/-! ## Units -/

/-- The header of a unit, which must name a parameter set of the asked-for type, and the fields of
that set. -/
def setDecoder {α : Type} (unitType : NalUnitType) (structureName : String) (fields : Decoder α) :
    Decoder α := do
  let header ← NalHeader.decoder
  Decoder.require (header.unitType == unitType) (.wrongUnitType structureName header.unitType.code)
  Decoder.located structureName fields

instance blind_setDecoder {α : Type} (unitType : NalUnitType) (structureName : String)
    (fields : Decoder α) [Blind fields] : Blind (setDecoder unitType structureName fields) := by
  rw [setDecoder]
  infer_instance

instance attributed_setDecoder {α : Type} (unitType : NalUnitType) (structureName : String)
    (fields : Decoder α) : Attributed (setDecoder unitType structureName fields) := by
  rw [setDecoder]
  infer_instance

/-- What follows the fields of a set: nothing that is decoded where extensions are there, and
trailing bits otherwise. -/
def closeDecoder {α : Type} (structureName feature : String) (extended : α → Bool) (set : α) :
    Decoder (α × Option Error) :=
  if extended set then return (set, some (.unsupported structureName feature))
  else do
    Decoder.located structureName Decoder.trailingBits
    return (set, none)

/-- A set that is decoded to its end is followed by trailing bits. -/
theorem opensTrailingBits_of_closeDecoder {α : Type} {structureName feature : String}
    {extended : α → Bool} {set : α} {result : α × Option Error} {reader last : PlainReader}
    (isComplete : result.2 = none)
    (accepted : (closeDecoder structureName feature extended set).run reader = (.ok result, last)) :
    ∃ name next, closeDecoder structureName feature extended set =
      (Decoder.located name Decoder.trailingBits).bind next := by
  rw [closeDecoder] at accepted ⊢
  by_cases isExtended : extended set = true
  · rw [if_pos isExtended] at accepted
    cases accepted
    cases isComplete
  · rw [if_neg isExtended]
    exact ⟨structureName, _, rfl⟩

theorem SequenceParameterSet.decoder_eq :
    SequenceParameterSet.decoder =
      (setDecoder .sps SequenceParameterSet.structureName SequenceParameterSet.fields).bind
        (closeDecoder SequenceParameterSet.structureName "SPS extensions" (·.extensions.any)) := by
  simp only [decoder, setDecoder, Decoder.monadBind_eq, Decoder.bind_assoc]
  rfl

theorem PictureParameterSet.decoder_eq :
    PictureParameterSet.decoder =
      (setDecoder .pps PictureParameterSet.structureName PictureParameterSet.fields).bind
        (closeDecoder PictureParameterSet.structureName "PPS extensions"
          (·.extensions.beyondRange)) := by
  simp only [decoder, setDecoder, Decoder.monadBind_eq, Decoder.bind_assoc]
  rfl

theorem VideoParameterSet.decoder_eq :
    VideoParameterSet.decoder =
      (setDecoder .vps VideoParameterSet.structureName VideoParameterSet.fields).bind fun set =>
        (Decoder.whenElse (!set.extended) () (Decoder.located VideoParameterSet.structureName
          Decoder.trailingBits)).bind fun _ => Decoder.done set := by
  simp only [decoder, setDecoder, Decoder.monadBind_eq, Decoder.bind_assoc]
  rfl

end CodedVideo.Hevc
