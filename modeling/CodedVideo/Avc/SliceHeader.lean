import CodedVideo.Avc.PictureParameterSet
import CodedVideo.PredictionWeight

/-!
# AVC slice headers

A slice header names a picture parameter set and, through it, a sequence parameter set. Which fields
it has and how wide they are follows from these, from the type of the slice and from the header of
the unit.
-/

namespace CodedVideo.Avc

/-! ## Parts -/

/-- How the macroblocks of a slice are predicted. -/
inductive SliceType where
  | p
  | b
  | i
  | sp
  | si
deriving DecidableEq, Repr

/-- A frame, or one of its two fields. -/
inductive PictureStructure where
  | frame
  | topField
  | bottomField
deriving DecidableEq, Repr

/-- What a slice codes of its picture order count. -/
structure PictureOrderFields where
  lowBits : Nat := 0
  bottomDelta : Int := 0
  firstDelta : Int := 0
  secondDelta : Int := 0
deriving DecidableEq, Repr

/-- The numbers of reference pictures in use, and whether the slice codes them itself. -/
structure ActiveReferences where
  overridden : Bool
  list0Minus1 : Nat
  list1Minus1 : Nat
deriving DecidableEq, Repr

/-- A step that moves a picture to the front of a reference list. -/
inductive ListModification where
  /-- The picture whose number lies below the predicted one. -/
  | subtract (differenceMinus1 : Nat)
  /-- The picture whose number lies above the predicted one. -/
  | add (differenceMinus1 : Nat)
  /-- A long-term picture. -/
  | longTerm (pictureNumber : Nat)
deriving DecidableEq, Repr

/-- The explicit weights of a slice. -/
structure WeightTable where
  lumaLog2Denominator : Nat
  /-- Only coded if chroma samples are coded with the luma samples. -/
  chromaLog2Denominator : Nat
  list0 : List PredictionWeight
  list1 : List PredictionWeight
deriving DecidableEq, Repr

/-- An operation on the pictures that are kept for reference. -/
inductive MemoryOperation where
  | dropShortTerm (differenceMinus1 : Nat)
  | dropLongTerm (pictureNumber : Nat)
  | makeLongTerm (differenceMinus1 frameIndex : Nat)
  | limitLongTerm (maxFrameIndexPlus1 : Nat)
  | dropAll
  | makeCurrentLongTerm (frameIndex : Nat)
deriving DecidableEq, Repr

/-- What becomes of the pictures that are kept for reference. -/
inductive ReferenceMarking where
  /-- The picture is a decoding refresh, so none of the others is kept. -/
  | refresh (noOutputOfPriorPictures longTermReference : Bool)
  /-- The oldest short-term picture makes room. -/
  | slidingWindow
  /-- Explicit operations. -/
  | adaptive (operations : List MemoryOperation)
deriving DecidableEq, Repr

/-- How block edges are filtered. -/
structure DeblockingFields where
  disableIdc : Nat := 0
  alphaOffsetDiv2 : Int := 0
  betaOffsetDiv2 : Int := 0
deriving DecidableEq, Repr

/-- A slice header. -/
structure SliceHeader where
  unit : NalHeader
  firstMacroblock : Nat
  /-- The code of the slice type; from 5 on it promises the same type for the whole picture. -/
  typeCode : Nat
  sliceType : SliceType
  pictureSetId : Nat
  colourPlane : Nat
  frameNum : Nat
  pictureStructure : PictureStructure
  idrPictureId : Nat
  pictureOrder : PictureOrderFields
  redundantPictureCount : Nat
  directSpatial : Bool
  activeReferences : ActiveReferences
  list0Modification : Option (List ListModification)
  list1Modification : Option (List ListModification)
  weights : Option WeightTable
  marking : Option ReferenceMarking
  arithmeticInitIdc : Nat
  qpDelta : Int
  switchForSp : Bool
  qsDelta : Int
  deblocking : DeblockingFields
  sliceGroupChangeCycle : Nat
  /-- The length of the header in bits, without the header of the unit. -/
  sizeInBits : Nat
deriving DecidableEq, Repr

/-! ## Slice types -/

namespace SliceType

/-- The slice type with a given code; the codes 5 to 9 repeat 0 to 4. -/
def ofCode? : Nat → Option SliceType
  | 0 | 5 => some p
  | 1 | 6 => some b
  | 2 | 7 => some i
  | 3 | 8 => some sp
  | 4 | 9 => some si
  | _ => none

/-- The lower code of a slice type. -/
def code : SliceType → Nat
  | p => 0
  | b => 1
  | i => 2
  | sp => 3
  | si => 4

/-- No other picture is referred to. -/
def isIntra : SliceType → Bool
  | i | si => true
  | _ => false

/-- Two reference lists are in use. -/
def isBidirectional : SliceType → Bool
  | b => true
  | _ => false

/-- The first reference list is in use. -/
def usesList0 : SliceType → Bool
  | p | sp | b => true
  | _ => false

/-- The slice type is one of the two that switch between streams. -/
def isSwitching : SliceType → Bool
  | sp | si => true
  | _ => false

end SliceType

/-! ## Grammar -/

namespace SliceHeader

open Decoder

/-- The name under which errors report the structure. -/
def structureName : String := "slice header"

/-- A field whose width is computed, which must not exceed 32 bits. -/
def wideField (name : String) (width : Nat) : Decoder Nat :=
  if 32 < width then abort (.malformed structureName s!"{name} width {width} exceeds 32 bits")
  else bits width

/-- The code of the slice type and the type it stands for. -/
def typeDecoder : Decoder (Nat × SliceType) := do
  let code ← unsigned
  match SliceType.ofCode? code with
  | some sliceType => return (code, sliceType)
  | none => abort (.malformed structureName s!"invalid slice type {code}")

/-- The picture parameter set with a given identifier. -/
def findPictureSet (pictures : IdTable PictureParameterSet) (id : Nat) :
    Decoder PictureParameterSet :=
  match pictures.get? id with
  | some set => done set
  | none => abort (.missingReference structureName "PPS" id)

/-- The sequence parameter set with a given identifier. -/
def findSequenceSet (sequences : IdTable SequenceParameterSet) (id : Nat) :
    Decoder SequenceParameterSet :=
  match sequences.get? id with
  | some set => done set
  | none => abort (.missingReference structureName "SPS" id)

/-- Whether the slice is of a frame or of a field; a sequence of frames only does not code it. -/
def pictureStructureDecoder (framesOnly : Bool) : Decoder PictureStructure := do
  if framesOnly then return .frame
  else if ← flag then
    if ← flag then return .bottomField else return .topField
  else return .frame

/-- The picture order count, as the sequence codes it. -/
def pictureOrderDecoder (sequenceSet : SequenceParameterSet) (bottomDeltaPresent : Bool) :
    Decoder PictureOrderFields := do
  match sequenceSet.pictureOrder with
  | .lowBits _ =>
      let lowBits ← wideField "pic_order_cnt_lsb" sequenceSet.log2MaxPictureOrder
      let bottomDelta ← whenElse bottomDeltaPresent 0 signed
      return { lowBits, bottomDelta }
  | .cycle false _ _ _ =>
      let firstDelta ← signed
      let secondDelta ← whenElse bottomDeltaPresent 0 signed
      return { firstDelta, secondDelta }
  | _ => return {}

/-- The numbers of reference pictures in use: those of the picture parameter set, unless a flag
says that the slice codes its own. -/
def activeReferencesDecoder (pictureSet : PictureParameterSet) (sliceType : SliceType) :
    Decoder ActiveReferences := do
  let overridden ← whenElse sliceType.usesList0 false flag
  if overridden then
    let list0Minus1 ← unsigned
    let list1Minus1 ← whenElse sliceType.isBidirectional pictureSet.defaultActiveList1Minus1
      unsigned
    return { overridden, list0Minus1, list1Minus1 }
  else
    return {
      overridden
      list0Minus1 := pictureSet.defaultActiveList0Minus1
      list1Minus1 := pictureSet.defaultActiveList1Minus1 }

/-- One step of a list modification, or its end, behind the code of the step. -/
def listModificationEntry : Nat → Decoder (Option ListModification)
  | 0 => return some (.subtract (← unsigned))
  | 1 => return some (.add (← unsigned))
  | 2 => return some (.longTerm (← unsigned))
  | 3 => return none
  | code => abort (.malformed structureName s!"modification_of_pic_nums_idc {code} out of range")

/-- The modification of a reference list: a flag, and behind it the steps. -/
def listModificationDecoder : Decoder (Option (List ListModification)) := do
  optional (← flag) (seriesOf listModificationEntry)

/-- The weights of one reference picture. -/
def predictionWeightDecoder (chromaCoded : Bool) : Decoder PredictionWeight := do
  let luma ← optional (← flag) Weight.decoder
  let chroma ← optional (← whenElse chromaCoded false flag) Weight.pairDecoder
  return { luma, chroma }

/-- The explicit weights of a slice. -/
def weightTableDecoder (chromaCoded bidirectional : Bool) (active : ActiveReferences) :
    Decoder WeightTable := do
  let lumaLog2Denominator ← unsigned
  let chromaLog2Denominator ← whenElse chromaCoded 0 unsigned
  let list0 ← replicate (active.list0Minus1 + 1) (predictionWeightDecoder chromaCoded)
  let list1 ← whenElse bidirectional []
    (replicate (active.list1Minus1 + 1) (predictionWeightDecoder chromaCoded))
  return { lumaLog2Denominator, chromaLog2Denominator, list0, list1 }

/-- A slice codes explicit weights. -/
def hasWeights (pictureSet : PictureParameterSet) (sliceType : SliceType) : Bool :=
  match sliceType with
  | .p | .sp => pictureSet.weightedPrediction
  | .b => pictureSet.weightedBipredictionIdc == 1
  | .i | .si => false

/-- One operation on the pictures that are kept, or the end, behind the code of the operation. -/
def memoryOperationEntry : Nat → Decoder (Option MemoryOperation)
  | 0 => return none
  | 1 => return some (.dropShortTerm (← unsigned))
  | 2 => return some (.dropLongTerm (← unsigned))
  | 3 => do
      let differenceMinus1 ← unsigned
      let frameIndex ← unsigned
      return some (.makeLongTerm differenceMinus1 frameIndex)
  | 4 => return some (.limitLongTerm (← unsigned))
  | 5 => return some .dropAll
  | 6 => return some (.makeCurrentLongTerm (← unsigned))
  | code =>
      abort (.malformed structureName s!"memory_management_control_operation {code} out of range")

/-- What becomes of the pictures that are kept for reference. -/
def markingDecoder (idr : Bool) : Decoder ReferenceMarking := do
  if idr then
    let noOutputOfPriorPictures ← flag
    let longTermReference ← flag
    return .refresh noOutputOfPriorPictures longTermReference
  else if ← flag then return .adaptive (← seriesOf memoryOperationEntry)
  else return .slidingWindow

/-- How block edges are filtered; with the filter off there are no offsets. -/
def deblockingDecoder : Decoder DeblockingFields := do
  let disableIdc ← unsigned
  if disableIdc = 1 then return { disableIdc }
  else
    let alphaOffsetDiv2 ← signed
    let betaOffsetDiv2 ← signed
    return { disableIdc, alphaOffsetDiv2, betaOffsetDiv2 }

/-- The width of the field that says how far a changing slice group map has come: it tells apart
the steps in which a map changes as a whole, and the start. -/
def changeCycleWidth (sequenceSet : SequenceParameterSet) (rate : Nat) : Nat :=
  let divisor := max rate 1
  ceilLog2 (saturate ((sequenceSet.pictureSizeInMapUnits + (divisor - 1)) / divisor + 1))

/-- How far a changing slice group map has come. -/
def changeCycleDecoder (sequenceSet : SequenceParameterSet) (pictureSet : PictureParameterSet) :
    Decoder Nat :=
  match pictureSet.changeRate? with
  | some rate => wideField "slice_group_change_cycle" (changeCycleWidth sequenceSet rate)
  | none => done 0

/-- The fields behind the header of the unit. -/
def fields (sequences : IdTable SequenceParameterSet) (pictures : IdTable PictureParameterSet)
    (unit : NalHeader) : Decoder SliceHeader := do
  let start ← position
  let firstMacroblock ← unsigned
  let (typeCode, sliceType) ← typeDecoder
  let pictureSetId ← unsigned
  let pictureSet ← findPictureSet pictures pictureSetId
  let sequenceSet ← findSequenceSet sequences pictureSet.sequenceId
  let colourPlane ← whenElse sequenceSet.format.separatePlanes 0 (bits 2)
  let frameNum ← wideField "frame_num" sequenceSet.log2MaxFrameNum
  let pictureStructure ← pictureStructureDecoder sequenceSet.framesOnly
  let idrPictureId ← whenElse unit.unitType.isIdr 0 unsigned
  let pictureOrder ← pictureOrderDecoder sequenceSet
    (pictureSet.bottomFieldOrderPresent && pictureStructure == .frame)
  let redundantPictureCount ← whenElse pictureSet.redundantPictureCountPresent 0 unsigned
  let directSpatial ← whenElse sliceType.isBidirectional false flag
  let activeReferences ← activeReferencesDecoder pictureSet sliceType
  let list0Modification ← whenElse (!sliceType.isIntra) none listModificationDecoder
  let list1Modification ← whenElse sliceType.isBidirectional none listModificationDecoder
  let weights ← optional (hasWeights pictureSet sliceType)
    (weightTableDecoder (sequenceSet.codedChroma != 0) sliceType.isBidirectional activeReferences)
  let marking ← optional (unit.refIdc != 0) (markingDecoder unit.unitType.isIdr)
  let arithmeticInitIdc ← whenElse (pictureSet.arithmeticCoding && !sliceType.isIntra) 0 unsigned
  let qpDelta ← signed
  let switchForSp ← whenElse (sliceType == .sp) false flag
  let qsDelta ← whenElse sliceType.isSwitching 0 signed
  let deblocking ← whenElse pictureSet.deblockingControlPresent {} deblockingDecoder
  let sliceGroupChangeCycle ← changeCycleDecoder sequenceSet pictureSet
  let stop ← position
  return {
    unit, firstMacroblock, typeCode, sliceType, pictureSetId, colourPlane, frameNum,
    pictureStructure, idrPictureId, pictureOrder, redundantPictureCount, directSpatial,
    activeReferences, list0Modification, list1Modification, weights, marking, arithmeticInitIdc,
    qpDelta, switchForSp, qsDelta, deblocking, sliceGroupChangeCycle
    sizeInBits := stop - start }

/-- The error for a unit that does not open with a slice header. -/
def refusal : NalUnitType → Error
  | .sliceExtension | .depthSliceExtension => .unsupported structureName "MVC/SVC slice extension"
  | unitType => .wrongUnitType structureName unitType.code

/-- The grammar of a unit, up to the end of the slice header. -/
def decoder (sequences : IdTable SequenceParameterSet) (pictures : IdTable PictureParameterSet) :
    Decoder SliceHeader := do
  let unit ← locatedAt structureName 0 NalHeader.decoder
  require unit.unitType.hasSliceHeader (refusal unit.unitType)
  located structureName (fields sequences pictures unit)

/-- Decodes the slice header of a unit. -/
def ofUnit (sequences : IdTable SequenceParameterSet) (pictures : IdTable PictureParameterSet)
    (unit : List UInt8) : Except Error SliceHeader :=
  (decoder sequences pictures).decodeUnit unit

end SliceHeader

namespace SliceType

open Decoder

/-- The start of a slice unit, up to the slice type. -/
def decoder : Decoder SliceType := do
  let unit ← locatedAt SliceHeader.structureName 0 NalHeader.decoder
  require unit.unitType.hasSliceHeader
    (.wrongUnitType SliceHeader.structureName unit.unitType.code)
  let _ ← located SliceHeader.structureName unsigned
  let (_, sliceType) ← located SliceHeader.structureName SliceHeader.typeDecoder
  return sliceType

/-- The slice type of a unit, decoded without any parameter set. -/
def ofUnit (unit : List UInt8) : Except Error SliceType :=
  decoder.decodeUnit unit

end SliceType

/-! ## Derived values -/

namespace SliceHeader

/-- The quantiser of the slice, with the picture parameter set it names. -/
def qp (header : SliceHeader) (pictureSet : PictureParameterSet) : Int :=
  saturateSigned (pictureSet.initialQp + header.qpDelta)

/-- All slices of the picture are promised to have the same type. -/
def sameTypeInPicture (header : SliceHeader) : Bool :=
  5 ≤ header.typeCode

/-- The slice belongs to a picture that others refer to. -/
def isReference (header : SliceHeader) : Bool :=
  header.unit.refIdc != 0

end SliceHeader

end CodedVideo.Avc
