import CodedVideo.Avc.Coding
import CodedVideo.Avc.SliceHeader

/-!
# Coding of AVC slice headers

The fields of an AVC slice header in coding order. Which there are follows, as for a reader, from
the parameter sets that the header refers to.
-/

namespace CodedVideo.Avc

open CodedField

/-- The fields that say whether a slice is of a frame or of a field. -/
def PictureStructure.coding (framesOnly : Bool) (pictureStructure : PictureStructure) :
    List CodedField :=
  onlyIf (!framesOnly)
    (match pictureStructure with
    | frame => [.flag false]
    | topField => [.flag true, .flag false]
    | bottomField => [.flag true, .flag true])

/-- The fields of the picture order count, as the sequence codes it. -/
def PictureOrderFields.coding (sequenceSet : SequenceParameterSet) (bottomDeltaPresent : Bool)
    (order : PictureOrderFields) : List CodedField :=
  match sequenceSet.pictureOrder with
  | .lowBits _ =>
      .bits order.lowBits sequenceSet.log2MaxPictureOrder ::
        onlyIf bottomDeltaPresent [.signed order.bottomDelta]
  | .cycle false _ _ _ =>
      .signed order.firstDelta :: onlyIf bottomDeltaPresent [.signed order.secondDelta]
  | _ => []

/-- The fields of the numbers of reference pictures in use. -/
def ActiveReferences.coding (sliceType : SliceType) (active : ActiveReferences) :
    List CodedField :=
  onlyIf sliceType.usesList0 [.flag active.overridden] ++
    onlyIf active.overridden
      (.unsigned active.list0Minus1 ::
        onlyIf sliceType.isBidirectional [.unsigned active.list1Minus1])

namespace ListModification

/-- The fields of one step. -/
def coding : ListModification → List CodedField
  | subtract differenceMinus1 => [.unsigned 0, .unsigned differenceMinus1]
  | add differenceMinus1 => [.unsigned 1, .unsigned differenceMinus1]
  | longTerm pictureNumber => [.unsigned 2, .unsigned pictureNumber]

/-- The fields of the steps of one list and of their end. -/
def listCoding (steps : List ListModification) : List CodedField :=
  steps.flatMap coding ++ [.unsigned 3]

end ListModification

namespace WeightTable

/-- The fields of the weights of one reference picture. -/
def weightCoding (chromaCoded : Bool) (weight : PredictionWeight) : List CodedField :=
  flagged Weight.coding weight.luma ++
    onlyIf chromaCoded (flagged Weight.pairCoding weight.chroma)

/-- The fields of the weights. -/
def coding (chromaCoded bidirectional : Bool) (weights : WeightTable) : List CodedField :=
  [.unsigned weights.lumaLog2Denominator] ++
    onlyIf chromaCoded [.unsigned weights.chromaLog2Denominator] ++
    weights.list0.flatMap (weightCoding chromaCoded) ++
    onlyIf bidirectional (weights.list1.flatMap (weightCoding chromaCoded))

end WeightTable

/-- The fields of one operation on the pictures that are kept. -/
def MemoryOperation.coding : MemoryOperation → List CodedField
  | dropShortTerm differenceMinus1 => [.unsigned 1, .unsigned differenceMinus1]
  | dropLongTerm pictureNumber => [.unsigned 2, .unsigned pictureNumber]
  | makeLongTerm differenceMinus1 frameIndex =>
      [.unsigned 3, .unsigned differenceMinus1, .unsigned frameIndex]
  | limitLongTerm maxFrameIndexPlus1 => [.unsigned 4, .unsigned maxFrameIndexPlus1]
  | dropAll => [.unsigned 5]
  | makeCurrentLongTerm frameIndex => [.unsigned 6, .unsigned frameIndex]

/-- The fields that say what becomes of the pictures that are kept. The kind of the picture tells a
refresh from the others, so it has no field. -/
def ReferenceMarking.coding : ReferenceMarking → List CodedField
  | refresh noOutputOfPriorPictures longTermReference =>
      [.flag noOutputOfPriorPictures, .flag longTermReference]
  | slidingWindow => [.flag false]
  | adaptive operations =>
      .flag true :: (operations.flatMap MemoryOperation.coding ++ [.unsigned 0])

/-- The fields of the filtering of block edges. -/
def DeblockingFields.coding (deblocking : DeblockingFields) : List CodedField :=
  .unsigned deblocking.disableIdc ::
    onlyIf (deblocking.disableIdc != 1)
      [.signed deblocking.alphaOffsetDiv2, .signed deblocking.betaOffsetDiv2]

namespace SliceHeader

/-- The field that says how far a changing slice group map has come. -/
def changeCycleCoding (sequenceSet : SequenceParameterSet) (pictureSet : PictureParameterSet)
    (changeCycle : Nat) : List CodedField :=
  present (fun rate => [.bits changeCycle (changeCycleWidth sequenceSet rate)])
    pictureSet.changeRate?

/-- The fields behind the header of the unit. -/
def coding (sequenceSet : SequenceParameterSet) (pictureSet : PictureParameterSet)
    (header : SliceHeader) : List CodedField :=
  let sliceType := header.sliceType
  let bidirectional := sliceType.isBidirectional
  [.unsigned header.firstMacroblock, .unsigned header.typeCode, .unsigned header.pictureSetId] ++
    onlyIf sequenceSet.format.separatePlanes [.bits header.colourPlane 2] ++
    [.bits header.frameNum sequenceSet.log2MaxFrameNum] ++
    header.pictureStructure.coding sequenceSet.framesOnly ++
    onlyIf header.unit.unitType.isIdr [.unsigned header.idrPictureId] ++
    header.pictureOrder.coding sequenceSet
      (pictureSet.bottomFieldOrderPresent && header.pictureStructure == .frame) ++
    onlyIf pictureSet.redundantPictureCountPresent [.unsigned header.redundantPictureCount] ++
    onlyIf bidirectional [.flag header.directSpatial] ++
    header.activeReferences.coding sliceType ++
    onlyIf (!sliceType.isIntra) (flagged ListModification.listCoding header.list0Modification) ++
    onlyIf bidirectional (flagged ListModification.listCoding header.list1Modification) ++
    present (WeightTable.coding (sequenceSet.codedChroma != 0) bidirectional) header.weights ++
    present ReferenceMarking.coding header.marking ++
    onlyIf (pictureSet.arithmeticCoding && !sliceType.isIntra)
      [.unsigned header.arithmeticInitIdc] ++
    [.signed header.qpDelta] ++
    onlyIf (sliceType == .sp) [.flag header.switchForSp] ++
    onlyIf sliceType.isSwitching [.signed header.qsDelta] ++
    onlyIf pictureSet.deblockingControlPresent header.deblocking.coding ++
    changeCycleCoding sequenceSet pictureSet header.sliceGroupChangeCycle

/-- The unit of a slice whose data is the given bits; its last byte is filled with zeros. -/
def toUnit (sequenceSet : SequenceParameterSet) (pictureSet : PictureParameterSet)
    (header : SliceHeader) (data : List Bool) : Except BitFault (List UInt8) :=
  CodedField.toUnit
    (header.unit.coding ++ header.coding sequenceSet pictureSet ++ data.map .flag)

end SliceHeader

end CodedVideo.Avc
