import CodedVideo.Avc.PictureParameterSet
import CodedVideo.Coding

/-!
# Coding of AVC parameter sets

The fields of AVC parameter sets in coding order. Of the ways in which a set can be coded, one is
chosen: scaling lists state all of their weights, and differences of weights are the least.
-/

namespace CodedVideo.Avc

open CodedField

/-- The fields of the header of a unit. -/
def NalHeader.coding (header : NalHeader) : List CodedField :=
  [.flag false, .bits header.refIdc 2, .bits header.unitType.code 5]

/-! ## Scaling lists -/

/-- The fields of a slot. The default list is meant where the first difference leads to zero. -/
def ScalingList.coding : ScalingList → List CodedField
  | notPresent => [.flag false]
  | useDefault => [.flag true, .signed (ByteDifference.between 8 0)]
  | explicit weights => .flag true :: (ByteDifference.along 8 weights).map .signed

/-! ## Video usability information -/

/-- The fields of one way to fill the buffer. -/
def BufferSchedule.coding (schedule : BufferSchedule) : List CodedField :=
  [.unsigned schedule.bitRateMinus1, .unsigned schedule.bufferSizeMinus1,
    .flag schedule.constantBitRate]

/-- The fields of a buffer model. -/
def BufferModel.coding (model : BufferModel) : List CodedField :=
  [.unsigned model.scheduleCountMinus1, .bits model.bitRateScale 4,
    .bits model.bufferSizeScale 4] ++
    model.schedules.flatMap BufferSchedule.coding ++
    [.bits model.initialRemovalDelayLengthMinus1 5, .bits model.removalDelayLengthMinus1 5,
      .bits model.outputDelayLengthMinus1 5, .bits model.timeOffsetLength 5]

/-- The fields of a clock. -/
def Timing.coding (timing : Timing) : List CodedField :=
  [.bits timing.unitsInTick 32, .bits timing.timeScale 32, .flag timing.fixedFrameRate]

/-- The fields of the promises about the coded data. -/
def BitstreamRestriction.coding (restriction : BitstreamRestriction) : List CodedField :=
  [.flag restriction.motionVectorsOverBoundaries,
    .unsigned restriction.maxBytesPerPictureDenominator,
    .unsigned restriction.maxBitsPerMacroblockDenominator,
    .unsigned restriction.log2MaxHorizontalVectorLength,
    .unsigned restriction.log2MaxVerticalVectorLength,
    .unsigned restriction.maxReorderFrames,
    .unsigned restriction.maxFrameBuffering]

/-- The fields of the usability information. -/
def VideoUsability.coding (usability : VideoUsability) : List CodedField :=
  usability.signal.coding ++
    flagged Timing.coding usability.timing ++
    flagged BufferModel.coding usability.nalBufferModel ++
    flagged BufferModel.coding usability.vclBufferModel ++
    onlyIf (usability.nalBufferModel.isSome || usability.vclBufferModel.isSome)
      [.flag usability.lowDelay] ++
    [.flag usability.pictureStructurePresent] ++
    flagged BitstreamRestriction.coding usability.restriction

/-! ## Sequence parameter sets -/

/-- The fields of the format of the samples. -/
def SampleFormat.coding (format : SampleFormat) : List CodedField :=
  [.unsigned format.chroma] ++
    onlyIf (format.chroma == 3) [.flag format.separatePlanes] ++
    [.unsigned format.lumaDepthMinus8, .unsigned format.chromaDepthMinus8,
      .flag format.losslessBypass] ++
    flagged (·.flatMap ScalingList.coding) format.scalingLists

/-- The fields of the picture order. -/
def PictureOrder.coding : PictureOrder → List CodedField
  | lowBits log2MaxMinus4 => [.unsigned 0, .unsigned log2MaxMinus4]
  | cycle alwaysZero nonReferenceOffset topToBottomOffset referenceOffsets =>
      [.unsigned 1, .flag alwaysZero, .signed nonReferenceOffset, .signed topToBottomOffset,
        .unsigned referenceOffsets.length] ++ referenceOffsets.map .signed
  | decodingOrder kind => [.unsigned kind]

namespace SequenceParameterSet

/-- The fields up to the flag that says whether usability information follows. -/
def frontCoding (set : SequenceParameterSet) : List CodedField :=
  [.bits set.profileIdc 8, .bits set.constraintFlags 8, .bits set.levelIdc 8, .unsigned set.id] ++
    onlyIf (SampleFormat.codingProfiles.contains set.profileIdc) set.format.coding ++
    [.unsigned set.log2MaxFrameNumMinus4] ++
    set.pictureOrder.coding ++
    [.unsigned set.maxReferenceFrames, .flag set.frameNumGapsAllowed,
      .unsigned set.widthInMacroblocksMinus1, .unsigned set.heightInMapUnitsMinus1,
      .flag set.framesOnly] ++
    onlyIf (!set.framesOnly) [.flag set.adaptiveFrameField] ++
    [.flag set.direct8x8Inference] ++
    flagged Window.coding set.cropping ++
    [.flag set.usability.isSome]

/-- The fields of a set. -/
def coding (set : SequenceParameterSet) : List CodedField :=
  set.frontCoding ++ present VideoUsability.coding set.usability

/-- The unit of a set, with a given reference indication. -/
def toUnit (set : SequenceParameterSet) (refIdc : Nat) : Except BitFault (List UInt8) :=
  CodedField.toUnit
    (({ refIdc, unitType := .sps } : NalHeader).coding ++ set.coding ++ [.trailing])

end SequenceParameterSet

/-! ## Picture parameter sets -/

/-- The fields of a rectangle. -/
def GroupRectangle.coding (rectangle : GroupRectangle) : List CodedField :=
  [.unsigned rectangle.topLeft, .unsigned rectangle.bottomRight]

/-- The fields of a map for `countMinus1 + 1` groups. -/
def SliceGroupMap.coding (countMinus1 : Nat) (map : SliceGroupMap) : List CodedField :=
  .unsigned map.code ::
    match map with
    | interleaved runLengthsMinus1 => runLengthsMinus1.map .unsigned
    | dispersed => []
    | foreground rectangles => rectangles.flatMap GroupRectangle.coding
    | changing _ reversed rateMinus1 => [.flag reversed, .unsigned rateMinus1]
    | explicit groups =>
        .unsigned (groups.length - 1) ::
          groups.map fun group => .bits group (ceilLog2 (saturate (countMinus1 + 1)))

/-- The fields of slice groups, of which there may be a single one. -/
def SliceGroups.coding : Option SliceGroups → List CodedField
  | none => [.unsigned 0]
  | some groups => .unsigned groups.countMinus1 :: groups.map.coding groups.countMinus1

/-- The fields behind those that every picture parameter set has. -/
def TransformSettings.coding (settings : TransformSettings) : List CodedField :=
  [.flag settings.transform8x8] ++
    flagged (·.flatMap ScalingList.coding) settings.scalingLists ++
    [.signed settings.secondChromaQpOffset]

namespace PictureParameterSet

/-- The fields that every set has. -/
def leadingCoding (set : PictureParameterSet) : List CodedField :=
  [.unsigned set.id, .unsigned set.sequenceId, .flag set.arithmeticCoding,
    .flag set.bottomFieldOrderPresent] ++
    SliceGroups.coding set.sliceGroups ++
    [.unsigned set.defaultActiveList0Minus1, .unsigned set.defaultActiveList1Minus1,
      .flag set.weightedPrediction, .bits set.weightedBipredictionIdc 2,
      .signed set.initialQpMinus26, .signed set.initialQsMinus26, .signed set.chromaQpOffset,
      .flag set.deblockingControlPresent, .flag set.constrainedIntraPrediction,
      .flag set.redundantPictureCountPresent]

/-- The fields of a set, with those of the transform settings or, where they can be inferred,
without. -/
def coding (set : PictureParameterSet) (transformCoded : Bool) : List CodedField :=
  set.leadingCoding ++ onlyIf transformCoded set.transform.coding

/-- The unit of a set, with a given reference indication. -/
def toUnit (set : PictureParameterSet) (refIdc : Nat) (transformCoded : Bool) :
    Except BitFault (List UInt8) :=
  CodedField.toUnit
    (({ refIdc, unitType := .pps } : NalHeader).coding ++ set.coding transformCoded ++ [.trailing])

end PictureParameterSet

end CodedVideo.Avc
