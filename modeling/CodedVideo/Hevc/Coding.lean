import CodedVideo.Coding
import CodedVideo.Hevc.PictureParameterSet
import CodedVideo.Hevc.SequenceParameterSet
import CodedVideo.Hevc.VideoParameterSet

/-!
# Coding of HEVC parameter sets

The fields of HEVC parameter sets in coding order. Of the ways in which a set can be coded, one is
chosen: scaling lists and reference picture sets state themselves, and are not copied or predicted.
-/

namespace CodedVideo.Hevc

open CodedField

/-! ## Profiles, tiers and levels -/

/-- The fields of a profile. -/
def ProfileBlock.coding (block : ProfileBlock) : List CodedField :=
  [.bits block.space 2, .flag block.tierFlag, .bits block.idc 5, .bits block.compatibility 32,
    .wideBits block.constraints 48]

/-- The two flags that say what a sub-layer states. -/
def SubLayerLevel.presenceCoding (subLayer : SubLayerLevel) : List CodedField :=
  [.flag subLayer.profile.isSome, .flag subLayer.levelIdc.isSome]

/-- The fields of what a sub-layer states. -/
def SubLayerLevel.coding (subLayer : SubLayerLevel) : List CodedField :=
  present ProfileBlock.coding subLayer.profile ++
    present (fun levelIdc => [.bits levelIdc 8]) subLayer.levelIdc

/-- The fields of a profile, tier and level; the flags of missing sub-layers are zero. -/
def ProfileTierLevel.coding (level : ProfileTierLevel) : List CodedField :=
  present ProfileBlock.coding level.profileBlock ++
    [.bits level.levelIdc 8] ++
    level.subLayers.flatMap SubLayerLevel.presenceCoding ++
    onlyIf (!level.subLayers.isEmpty)
      (List.replicate (8 - level.subLayers.length) (.bits 0 2)) ++
    level.subLayers.flatMap SubLayerLevel.coding

/-! ## Sub-layers and extensions -/

namespace SubLayerOrdering

/-- The fields of one sub-layer. -/
def coding (ordering : SubLayerOrdering) : List CodedField :=
  [.unsigned ordering.maxStoredPicturesMinus1, .unsigned ordering.maxReorderedPictures,
    .unsigned ordering.maxLatencyIncreasePlus1]

/-- The flag that says whether each sub-layer is coded, and the fields of those that are. -/
def listCoding (eachCoded : Bool) (ordering : List SubLayerOrdering) : List CodedField :=
  .flag eachCoded ::
    if eachCoded then ordering.flatMap coding else present coding ordering.getLast?

end SubLayerOrdering

/-- The fields that say which extensions follow. -/
def ExtensionFlags.coding (flags : ExtensionFlags) : List CodedField :=
  .flag flags.any ::
    onlyIf flags.any
      [.flag flags.range, .flag flags.multilayer, .flag flags.threeD, .flag flags.screenContent,
        .bits flags.others 4]

/-! ## Buffer models -/

/-- The fields of one way to fill the buffer. -/
def BufferSchedule.coding (unitRemoval : Bool) (schedule : BufferSchedule) : List CodedField :=
  [.unsigned schedule.bitRateMinus1, .unsigned schedule.bufferSizeMinus1] ++
    onlyIf unitRemoval
      [.unsigned schedule.unitBufferSizeMinus1, .unsigned schedule.unitBitRateMinus1] ++
    [.flag schedule.constantBitRate]

/-- The first fields of the removal of single decoding units; its scale is coded later. -/
def UnitRemoval.coding (removal : UnitRemoval) : List CodedField :=
  [.bits removal.tickDivisorMinus2 8, .bits removal.delayIncrementLengthMinus1 5,
    .flag removal.inTimingMessages, .bits removal.outputDelayLengthMinus1 5]

/-- The fields of what all sub-layers share. -/
def SharedBufferModel.coding (shared : SharedBufferModel) : List CodedField :=
  [.flag shared.nalPresent, .flag shared.vclPresent] ++
    onlyIf (shared.nalPresent || shared.vclPresent)
      (flagged UnitRemoval.coding shared.unitRemoval ++
        [.bits shared.bitRateScale 4, .bits shared.bufferSizeScale 4] ++
        present (fun removal : UnitRemoval => [.bits removal.bufferSizeScale 4])
          shared.unitRemoval ++
        [.bits shared.initialRemovalDelayLengthMinus1 5, .bits shared.removalDelayLengthMinus1 5,
          .bits shared.outputDelayLengthMinus1 5])

/-- The fields of one sub-layer. -/
def SubLayerBufferModel.coding (shared : SharedBufferModel) (subLayer : SubLayerBufferModel) :
    List CodedField :=
  let schedules := fun list : List BufferSchedule =>
    list.flatMap (BufferSchedule.coding shared.unitRemoval.isSome)
  [.flag subLayer.fixedRateInGeneral] ++
    onlyIf (!subLayer.fixedRateInGeneral) [.flag subLayer.fixedRateInSequence] ++
    (if subLayer.fixedRateInSequence then [.unsigned subLayer.elementalDurationMinus1]
      else [.flag subLayer.lowDelay]) ++
    onlyIf (!subLayer.lowDelay) [.unsigned subLayer.scheduleCountMinus1] ++
    onlyIf shared.nalPresent (schedules subLayer.nal) ++
    onlyIf shared.vclPresent (schedules subLayer.vcl)

/-- The fields of a buffer model, with or without what all sub-layers share. -/
def BufferModel.coding (sharedPresent : Bool) (model : BufferModel) : List CodedField :=
  onlyIf sharedPresent model.shared.coding ++
    model.subLayers.flatMap (SubLayerBufferModel.coding model.shared)

/-! ## Video usability information -/

/-- The fields of a clock. -/
def Timing.coding (timing : Timing) : List CodedField :=
  [.bits timing.unitsInTick 32, .bits timing.timeScale 32] ++
    flagged (fun ticks => [.unsigned ticks]) timing.ticksPerPictureMinus1

/-- The fields of the promises about the coded data. -/
def BitstreamRestriction.coding (restriction : BitstreamRestriction) : List CodedField :=
  [.flag restriction.tilesFixed, .flag restriction.motionVectorsOverBoundaries,
    .flag restriction.restrictedReferenceLists, .unsigned restriction.minSpatialSegmentation,
    .unsigned restriction.maxBytesPerPictureDenominator,
    .unsigned restriction.maxBitsPerCodingUnitDenominator,
    .unsigned restriction.log2MaxHorizontalVectorLength,
    .unsigned restriction.log2MaxVerticalVectorLength]

/-- The fields of the usability information. -/
def VideoUsability.coding (usability : VideoUsability) : List CodedField :=
  usability.signal.coding ++
    [.flag usability.neutralChroma, .flag usability.fieldSequence,
      .flag usability.frameFieldInfoPresent] ++
    flagged Window.coding usability.displayWindow ++
    flagged Timing.coding usability.timing ++
    onlyIf usability.timing.isSome (flagged (BufferModel.coding true) usability.bufferModel) ++
    flagged BitstreamRestriction.coding usability.restriction

/-! ## Video parameter sets -/

/-- The fields of the buffer model with a given index. -/
def LayerSetBufferModel.coding (index : Nat) (bufferModel : LayerSetBufferModel) :
    List CodedField :=
  [.unsigned bufferModel.layerSet] ++
    onlyIf (index != 0) [.flag bufferModel.sharedPresent] ++
    bufferModel.model.coding bufferModel.sharedPresent

namespace VideoParameterSet

/-- The flags that say which layers up to `maxLayerId` belong to a layer set. -/
def layerSetCoding (maxLayerId layers : Nat) : List CodedField :=
  (List.range (maxLayerId + 1)).map fun layer => .flag (layers.testBit layer)

/-- The fields of the buffer models. -/
def bufferModelsCoding (bufferModels : List LayerSetBufferModel) : List CodedField :=
  .unsigned bufferModels.length ::
    bufferModels.zipIdx.flatMap fun (bufferModel, index) => bufferModel.coding index

/-- The fields of a set. -/
def coding (set : VideoParameterSet) : List CodedField :=
  [.bits set.id 4, .flag set.baseLayerInternal, .flag set.baseLayerAvailable,
    .bits set.maxLayersMinus1 6, .bits set.maxSubLayersMinus1 3, .flag set.temporalIdNesting,
    .bits 0xffff 16] ++
    set.profileTierLevel.coding ++
    SubLayerOrdering.listCoding set.orderingOfEach set.ordering ++
    [.bits set.maxLayerId 6, .unsigned set.layerSets.length] ++
    set.layerSets.flatMap (layerSetCoding set.maxLayerId) ++
    flagged Timing.coding set.timing ++
    onlyIf set.timing.isSome (bufferModelsCoding set.bufferModels) ++
    [.flag set.extended]

/-- The unit of a set. Behind the fields stand extension data, if the set says so, or the trailing
bits. -/
def toUnit (set : VideoParameterSet) (layerId temporalIdPlus1 : Nat) (extension : List Bool) :
    Except BitFault (List UInt8) :=
  CodedField.toUnit
    (({ unitType := .vps, layerId, temporalIdPlus1 } : NalHeader).coding ++ set.coding ++
      if set.extended then extension.map .flag else [.trailing])

end VideoParameterSet

/-! ## Scaling lists -/

/-- The fields of a list that states itself. -/
def ScalingList.coding (list : ScalingList) : List CodedField :=
  [.flag true] ++
    present (fun constant : Nat => [.signed ((constant : Int) - 8)]) list.constantCoefficient ++
    (ByteDifference.along (list.constantCoefficient.getD 8) list.coefficients).map .signed

/-- The fields of all scaling lists. -/
def ScalingLists.coding (lists : ScalingLists) : List CodedField :=
  lists.lists.flatMap ScalingList.coding

/-- The fields of scaling. -/
def Scaling.coding : Scaling → List CodedField
  | flat => [.flag false]
  | standard => [.flag true, .flag false]
  | coded lists => .flag true :: .flag true :: lists.coding

/-! ## Reference picture sets -/

namespace ShortTermSet

/-- The fields of pictures on one side, from the one at `last` outward. -/
def picturesCoding : Int → List ReferencePicture → List CodedField
  | _, [] => []
  | last, picture :: pictures =>
      .unsigned ((picture.delta - last).natAbs - 1) :: .flag picture.used ::
        picturesCoding picture.delta pictures

/-- The fields of a set that states itself, which asks for neighbours at most
`maxDistanceMinus1 + 1` apart. The first set of a sequence cannot be predicted, so it has no flag
that says that it is not. -/
def coding (isFirst : Bool) (set : ShortTermSet) : List CodedField :=
  onlyIf (!isFirst) [.flag false] ++
    [.unsigned set.before.length, .unsigned set.after.length] ++
    picturesCoding 0 set.before ++
    picturesCoding 0 set.after

/-- The fields of all sets of a sequence and of their number. -/
def sequenceCoding (sets : List ShortTermSet) : List CodedField :=
  .unsigned sets.length :: sets.zipIdx.flatMap fun (set, index) => set.coding (index == 0)

end ShortTermSet

/-- The fields of a candidate for long-term reference, whose low bits have a given width. -/
def LongTermCandidate.coding (width : Nat) (candidate : LongTermCandidate) : List CodedField :=
  [.bits candidate.lowBits width, .flag candidate.used]

/-! ## Sequence parameter sets -/

/-- The fields of block sizes. -/
def BlockSizes.coding (blocks : BlockSizes) : List CodedField :=
  [.unsigned blocks.log2MinCodingMinus3, .unsigned blocks.log2CodingRange,
    .unsigned blocks.log2MinTransformMinus2, .unsigned blocks.log2TransformRange,
    .unsigned blocks.maxTransformDepthInter, .unsigned blocks.maxTransformDepthIntra]

/-- The fields of blocks whose samples are coded as they are. -/
def PcmBlocks.coding (pcm : PcmBlocks) : List CodedField :=
  [.bits pcm.lumaDepthMinus1 4, .bits pcm.chromaDepthMinus1 4, .unsigned pcm.log2MinSizeMinus3,
    .unsigned pcm.log2SizeRange, .flag pcm.loopFilterDisabled]

namespace SequenceParameterSet

/-- The fields of the candidates for long-term reference and of their number. -/
def longTermCoding (width : Nat) (candidates : List LongTermCandidate) : List CodedField :=
  .unsigned candidates.length :: candidates.flatMap (LongTermCandidate.coding width)

/-- The fields of a set, up to the extension flags. -/
def coding (set : SequenceParameterSet) : List CodedField :=
  [.bits set.videoSetId 4, .bits set.maxSubLayersMinus1 3, .flag set.temporalIdNesting] ++
    set.profileTierLevel.coding ++
    [.unsigned set.id, .unsigned set.chroma] ++
    onlyIf (set.chroma == 3) [.flag set.separatePlanes] ++
    [.unsigned set.codedWidth, .unsigned set.codedHeight] ++
    flagged Window.coding set.conformanceWindow ++
    [.unsigned set.lumaDepthMinus8, .unsigned set.chromaDepthMinus8,
      .unsigned set.log2MaxPictureOrderMinus4] ++
    SubLayerOrdering.listCoding set.orderingOfEach set.ordering ++
    set.blocks.coding ++
    set.scaling.coding ++
    [.flag set.asymmetricPartitions, .flag set.sampleAdaptiveOffset] ++
    flagged PcmBlocks.coding set.pcm ++
    ShortTermSet.sequenceCoding set.shortTermSets ++
    flagged (longTermCoding set.log2MaxPictureOrder) set.longTermCandidates ++
    [.flag set.temporalMotionPrediction, .flag set.strongIntraSmoothing] ++
    flagged VideoUsability.coding set.usability ++
    set.extensions.coding

/-- The unit of a set. Behind the fields stand extensions, if the set says so, or the trailing
bits. -/
def toUnit (set : SequenceParameterSet) (layerId temporalIdPlus1 : Nat) (extension : List Bool) :
    Except BitFault (List UInt8) :=
  CodedField.toUnit
    (({ unitType := .sps, layerId, temporalIdPlus1 } : NalHeader).coding ++ set.coding ++
      if set.extensions.any then extension.map .flag else [.trailing])

end SequenceParameterSet

/-! ## Picture parameter sets -/

/-- The fields of tile sizes. -/
def TileSizes.coding (sizes : TileSizes) : List CodedField :=
  sizes.columnWidthsMinus1.map .unsigned ++ sizes.rowHeightsMinus1.map .unsigned

/-- The fields of a grid of tiles. -/
def TileGrid.coding (grid : TileGrid) : List CodedField :=
  [.unsigned grid.columnsMinus1, .unsigned grid.rowsMinus1, .flag grid.sizes.isNone] ++
    present TileSizes.coding grid.sizes ++
    [.flag grid.loopFilterAcross]

/-- The fields of the filtering of block edges. -/
def DeblockingControl.coding (deblocking : DeblockingControl) : List CodedField :=
  [.flag deblocking.overrideEnabled, .flag deblocking.disabled] ++
    onlyIf (!deblocking.disabled)
      [.signed deblocking.betaOffsetDiv2, .signed deblocking.tcOffsetDiv2]

/-- The fields of the quantiser offsets for chroma. -/
def ChromaOffsetLists.coding (lists : ChromaOffsetLists) : List CodedField :=
  [.unsigned lists.depth, .unsigned (lists.offsets.length - 1)] ++
    lists.offsets.flatMap fun (cb, cr) => [.signed cb, .signed cr]

/-- The fields of the range extension. -/
def PictureRangeExtension.coding (transformSkip : Bool) (extension : PictureRangeExtension) :
    List CodedField :=
  onlyIf transformSkip [.unsigned extension.log2MaxTransformSkipMinus2] ++
    [.flag extension.crossComponentPrediction] ++
    flagged ChromaOffsetLists.coding extension.chromaOffsetLists ++
    [.unsigned extension.log2LumaOffsetScale, .unsigned extension.log2ChromaOffsetScale]

namespace PictureParameterSet

/-- The fields of a set, up to the range extension. -/
def coding (set : PictureParameterSet) : List CodedField :=
  [.unsigned set.id, .unsigned set.sequenceId, .flag set.dependentSegments,
    .flag set.outputFlagPresent, .bits set.reservedFlagCount 3, .flag set.signDataHiding,
    .flag set.arithmeticInitPresent, .unsigned set.defaultActiveList0Minus1,
    .unsigned set.defaultActiveList1Minus1, .signed set.initialQpMinus26,
    .flag set.constrainedIntraPrediction, .flag set.transformSkip] ++
    flagged (fun depth => [.unsigned depth]) set.qpDeltaDepth ++
    [.signed set.cbQpOffset, .signed set.crQpOffset, .flag set.sliceChromaOffsetsPresent,
      .flag set.weightedPrediction, .flag set.weightedBiprediction, .flag set.transquantBypass,
      .flag set.tiles.isSome, .flag set.entropySynchronisation] ++
    present TileGrid.coding set.tiles ++
    [.flag set.loopFilterAcrossSlices] ++
    flagged DeblockingControl.coding set.deblocking ++
    flagged ScalingLists.coding set.scalingLists ++
    [.flag set.listModificationPresent, .unsigned set.log2MergeLevelMinus2,
      .flag set.headerExtensionPresent] ++
    set.extensions.coding ++
    present (PictureRangeExtension.coding set.transformSkip) set.rangeExtension

/-- The unit of a set. Behind the fields stand other extensions, if the set says so, or the trailing
bits. -/
def toUnit (set : PictureParameterSet) (layerId temporalIdPlus1 : Nat) (extension : List Bool) :
    Except BitFault (List UInt8) :=
  CodedField.toUnit
    (({ unitType := .pps, layerId, temporalIdPlus1 } : NalHeader).coding ++ set.coding ++
      if set.extensions.beyondRange then extension.map .flag else [.trailing])

end PictureParameterSet

end CodedVideo.Hevc
