import CodedVideo.Hevc.Coding
import CodedVideo.Hevc.SliceHeader

/-!
# Coding of HEVC slice segment headers

The fields of an HEVC slice segment header in coding order. Which there are follows, as for a
reader, from the parameter sets that the header refers to.
-/

namespace CodedVideo.Hevc

open CodedField

/-! ## The start of a segment -/

/-- The fields of the start of a segment, whose slice type an independent segment codes last. -/
def SegmentStart.coding (unitType : NalUnitType) (pictureSet : PictureParameterSet)
    (sequenceSet : SequenceParameterSet) (start : SegmentStart) : List CodedField :=
  [.flag start.isFirst] ++
    onlyIf unitType.isIrap [.flag start.noOutputOfPriorPictures] ++
    [.unsigned start.pictureSetId] ++
    onlyIf (!start.isFirst && pictureSet.dependentSegments) [.flag start.isDependent] ++
    onlyIf (!start.isFirst) [.bits start.address (ceilLog2 sequenceSet.sizeInTreeBlocks)] ++
    present (fun sliceType : SliceType =>
      [.bits start.reservedFlags pictureSet.reservedFlagCount, .unsigned sliceType.code])
      start.sliceType

/-! ## Kept pictures -/

/-- The fields of the choice of a short-term set, given those of the sequence parameter set. -/
def ShortTermChoice.coding (sets : List ShortTermSet) : ShortTermChoice → List CodedField
  | refresh => []
  | own set _ => .flag false :: set.coding sets.isEmpty
  | ofSequence index => [.flag true, .bits index (ceilLog2 sets.length)]

namespace LongTermReference

/-- The fields of a long-term picture; one chosen from `candidateCount` candidates codes its place
among them. -/
def coding (width candidateCount : Nat) (reference : LongTermReference) : List CodedField :=
  (match reference.candidateIndex with
    | some index => [.bits index (ceilLog2 candidateCount)]
    | none => reference.picture.coding width) ++
    flagged (fun delta => [.unsigned delta]) reference.highBitsDelta

/-- The fields of all long-term pictures and of their numbers. -/
def listCoding (width candidateCount : Nat) (kept : KeptPictures) : List CodedField :=
  onlyIf (candidateCount != 0) [.unsigned kept.chosenLongTerm.length] ++
    [.unsigned kept.codedLongTerm.length] ++
    kept.longTerm.flatMap (coding width candidateCount)

end LongTermReference

/-- The fields of the pictures that are kept. -/
def KeptPictures.coding (sequenceSet : SequenceParameterSet) (kept : KeptPictures) :
    List CodedField :=
  let width := sequenceSet.log2MaxPictureOrder
  [.bits kept.pictureOrderLowBits width] ++
    kept.shortTerm.coding sequenceSet.shortTermSets ++
    present (fun candidates : List LongTermCandidate =>
      LongTermReference.listCoding width candidates.length kept) sequenceSet.longTermCandidates ++
    onlyIf sequenceSet.temporalMotionPrediction [.flag kept.temporalMotionPrediction]

/-! ## Pictures in use -/

/-- The fields of the numbers of reference pictures in use. -/
def ActiveReferences.coding (bidirectional : Bool) (active : ActiveReferences) : List CodedField :=
  .flag active.overridden ::
    onlyIf active.overridden
      (.unsigned active.list0Minus1 :: onlyIf bidirectional [.unsigned active.list1Minus1])

/-- The fields of the modification of both lists, where `usedCount` pictures can be used. -/
def ListModification.coding (usedCount : Nat) (bidirectional : Bool)
    (modification : ListModification) : List CodedField :=
  let entries : List Nat → List CodedField :=
    List.map fun entry => .bits entry (ceilLog2 usedCount)
  flagged entries modification.list0 ++ onlyIf bidirectional (flagged entries modification.list1)

/-- The fields of the picture whose motion is used. -/
def CollocatedPicture.coding (active : ActiveReferences) (bidirectional : Bool)
    (collocated : CollocatedPicture) : List CodedField :=
  let activeMinus1 := if collocated.fromList0 then active.list0Minus1 else active.list1Minus1
  onlyIf bidirectional [.flag collocated.fromList0] ++
    onlyIf (activeMinus1 != 0) [.unsigned collocated.index]

namespace WeightTable

/-- The fields of the weights of one reference picture behind the flags that say which there are. -/
def weightCoding (weight : PredictionWeight) : List CodedField :=
  present Weight.coding weight.luma ++ present Weight.pairCoding weight.chroma

/-- The fields of the weights of one list. -/
def listCoding (chromaCoded : Bool) (weights : List PredictionWeight) : List CodedField :=
  weights.map (fun weight => .flag weight.luma.isSome) ++
    onlyIf chromaCoded (weights.map fun weight => .flag weight.chroma.isSome) ++
    weights.flatMap weightCoding

/-- The fields of the weights. -/
def coding (chromaCoded bidirectional : Bool) (weights : WeightTable) : List CodedField :=
  [.unsigned weights.lumaLog2Denominator] ++
    onlyIf chromaCoded [.signed (weights.chromaLog2Denominator - weights.lumaLog2Denominator)] ++
    listCoding chromaCoded weights.list0 ++
    onlyIf bidirectional (listCoding chromaCoded weights.list1)

end WeightTable

/-- The fields of a slice's references, where `usedCount` pictures can be used. -/
def InterFields.coding (pictureSet : PictureParameterSet) (sequenceSet : SequenceParameterSet)
    (bidirectional temporalMotionPrediction : Bool) (usedCount : Nat) (inter : InterFields) :
    List CodedField :=
  inter.active.coding bidirectional ++
    present (ListModification.coding usedCount bidirectional) inter.modification ++
    onlyIf bidirectional [.flag inter.zeroList1Differences] ++
    onlyIf pictureSet.arithmeticInitPresent [.flag inter.arithmeticInit] ++
    onlyIf temporalMotionPrediction (inter.collocated.coding inter.active bidirectional) ++
    present (WeightTable.coding (sequenceSet.codedChroma != 0) bidirectional) inter.weights ++
    [.unsigned inter.fiveMinusMergeCandidates]

/-! ## Slices -/

/-- The fields of the filtering of block edges. -/
def DeblockingFields.coding (pictureSet : PictureParameterSet) (deblocking : DeblockingFields) :
    List CodedField :=
  onlyIf pictureSet.deblockingOverrideEnabled [.flag deblocking.overridden] ++
    onlyIf deblocking.overridden
      (.flag deblocking.disabled ::
        onlyIf (!deblocking.disabled)
          [.signed deblocking.betaOffsetDiv2, .signed deblocking.tcOffsetDiv2])

/-- The fields of a slice. -/
def SliceFields.coding (unitType : NalUnitType) (pictureSet : PictureParameterSet)
    (sequenceSet : SequenceParameterSet) (sliceType : SliceType) (fields : SliceFields) :
    List CodedField :=
  let sampleOffset := sequenceSet.sampleAdaptiveOffset
  let filtered :=
    fields.lumaSampleOffset || fields.chromaSampleOffset || !fields.deblocking.disabled
  onlyIf pictureSet.outputFlagPresent [.flag fields.pictureOutput] ++
    onlyIf sequenceSet.separatePlanes [.bits fields.colourPlane 2] ++
    onlyIf (!unitType.isIdr) (fields.kept.coding sequenceSet) ++
    onlyIf sampleOffset [.flag fields.lumaSampleOffset] ++
    onlyIf (sampleOffset && sequenceSet.codedChroma != 0) [.flag fields.chromaSampleOffset] ++
    onlyIf (!sliceType.isIntra)
      (fields.inter.coding pictureSet sequenceSet sliceType.isBidirectional
        fields.kept.temporalMotionPrediction
        (fields.kept.usedCount sequenceSet.shortTermSets)) ++
    [.signed fields.qpDelta] ++
    onlyIf pictureSet.sliceChromaOffsetsPresent
      [.signed fields.cbQpOffset, .signed fields.crQpOffset] ++
    onlyIf pictureSet.hasChromaOffsetLists [.flag fields.chromaOffsetLists] ++
    fields.deblocking.coding pictureSet ++
    onlyIf (pictureSet.loopFilterAcrossSlices && filtered) [.flag fields.loopFilterAcrossSlices]

/-- The fields of entry points and of their number. -/
def EntryPoints.coding (points : EntryPoints) : List CodedField :=
  .unsigned points.offsetsMinus1.length ::
    onlyIf (!points.offsetsMinus1.isEmpty)
      (.unsigned points.offsetLengthMinus1 ::
        points.offsetsMinus1.map fun offset => .bits offset (points.offsetLengthMinus1 + 1))

namespace SliceHeader

/-- The fields of the extension data and of its length. -/
def extensionCoding (data : List Nat) : List CodedField :=
  .unsigned data.length :: data.map fun byte => .bits byte 8

/-- The fields behind the header of the unit, with the padding. -/
def coding (pictureSet : PictureParameterSet) (sequenceSet : SequenceParameterSet)
    (header : SliceHeader) : List CodedField :=
  header.start.coding header.unit.unitType pictureSet sequenceSet ++
    present (fun sliceType : SliceType =>
      header.fields.coding header.unit.unitType pictureSet sequenceSet sliceType)
      header.start.sliceType ++
    onlyIf (pictureSet.tiles.isSome || pictureSet.entropySynchronisation)
      header.entryPoints.coding ++
    onlyIf pictureSet.headerExtensionPresent (extensionCoding header.extensionData) ++
    [.trailing]

/-- The unit of a slice segment whose data is the given bits; its last byte is filled with zeros. -/
def toUnit (pictureSet : PictureParameterSet) (sequenceSet : SequenceParameterSet)
    (header : SliceHeader) (data : List Bool) : Except BitFault (List UInt8) :=
  CodedField.toUnit
    (header.unit.coding ++ header.coding pictureSet sequenceSet ++ data.map .flag)

end SliceHeader

end CodedVideo.Hevc
