import CodedVideo.ExpGolomb
import CodedVideo.Hevc.PictureParameterSet
import CodedVideo.Hevc.SequenceParameterSet
import CodedVideo.IdTable

/-!
# The start of HEVC slice segments

A slice consists of segments. The start of a segment header names a picture parameter set and,
through it, a sequence parameter set, and says where in the picture the segment stands. A dependent
segment codes no more than that: it continues the segment in front of it.
-/

namespace CodedVideo.Hevc

/-! ## Slice types -/

/-- How the blocks of a slice are predicted. -/
inductive SliceType where
  | b
  | p
  | i
deriving DecidableEq, Repr

namespace SliceType

/-- The slice type with a given code. -/
def ofCode? : Nat → Option SliceType
  | 0 => some b
  | 1 => some p
  | 2 => some i
  | _ => none

/-- The code of a slice type. -/
def code : SliceType → Nat
  | b => 0
  | p => 1
  | i => 2

/-- No other picture is referred to. -/
def isIntra : SliceType → Bool
  | i => true
  | _ => false

/-- Two reference lists are in use. -/
def isBidirectional : SliceType → Bool
  | b => true
  | _ => false

end SliceType

/-! ## Starts of segments -/

/-- The start of a slice segment header. -/
structure SegmentStart where
  /-- The segment is the first one of its picture. -/
  isFirst : Bool
  /-- Only coded where decoding can start. -/
  noOutputOfPriorPictures : Bool
  pictureSetId : Nat
  /-- The first coding tree block, in tile order. -/
  address : Nat
  /-- Reserved flags, the first one in the most significant bit. -/
  reservedFlags : Nat
  /-- A dependent segment has none of its own. -/
  sliceType : Option SliceType
deriving DecidableEq, Repr

/-- A segment start with the parameter sets that it refers to. -/
structure ReferringStart where
  start : SegmentStart
  pictureSet : PictureParameterSet
  sequenceSet : SequenceParameterSet
deriving DecidableEq, Repr

namespace SegmentStart

/-- The segment continues the one in front of it. -/
def isDependent (start : SegmentStart) : Bool :=
  start.sliceType.isNone

/-! ## Grammar -/

open Decoder

/-- The name under which errors report slice segment headers. -/
def structureName : String := "slice segment header"

/-- The picture parameter set with a given identifier. -/
def findPictureSet (pictures : IdTable PictureParameterSet) (id : Nat) :
    Decoder PictureParameterSet :=
  match pictures.get? id with
  | some set => done set
  | none => abort (.missingReference structureName "PPS" id)

/-- The sequence parameter set with a given identifier. -/
def findSequenceSet (sequences : IdTable SequenceParameterSet) (id : Nat) :
    Decoder SequenceParameterSet :=
  match sequences.get? id with
  | some set => done set
  | none => abort (.missingReference structureName "SPS" id)

/-- The place of a segment in a picture of `size` coding tree blocks. -/
def addressDecoder (size : Nat) : Decoder Nat := do
  let address ← bits (ceilLog2 size)
  require (address < size)
    (.malformed structureName s!"slice_segment_address {address} outside {size} CTBs")
  return address

/-- The type of a slice. -/
def typeDecoder : Decoder SliceType := do
  let code ← unsigned
  match SliceType.ofCode? code with
  | some sliceType => return sliceType
  | none => abort (.malformed structureName s!"invalid slice type {code}")

/-- The header of a unit that holds a slice segment of the base layer. -/
def unitDecoder : Decoder NalHeader := do
  let unit ← NalHeader.decoder
  require unit.unitType.hasSliceHeader (.wrongUnitType structureName unit.unitType.code)
  require (unit.layerId == 0) (.unsupported structureName "multi-layer slices")
  return unit

/-- The fields behind the header of the unit, up to the slice type. -/
def decoder (sequences : IdTable SequenceParameterSet) (pictures : IdTable PictureParameterSet)
    (unit : NalHeader) : Decoder ReferringStart := do
  let isFirst ← flag
  let noOutputOfPriorPictures ← whenElse unit.unitType.isIrap false flag
  let pictureSetId ← unsigned
  let pictureSet ← findPictureSet pictures pictureSetId
  let sequenceSet ← findSequenceSet sequences pictureSet.sequenceId
  let dependent ← whenElse (!isFirst && pictureSet.dependentSegments) false flag
  let address ← whenElse (!isFirst) 0 (addressDecoder sequenceSet.sizeInTreeBlocks)
  let reservedFlags ← whenElse (!dependent) 0 (bits pictureSet.reservedFlagCount)
  let sliceType ← optional (!dependent) typeDecoder
  return {
    start := {
      isFirst, noOutputOfPriorPictures, pictureSetId, address, reservedFlags, sliceType }
    pictureSet, sequenceSet }

end SegmentStart

namespace SliceType

open Decoder

/-- The start of a slice unit, up to the slice type; a dependent segment has none. -/
def decoder (sequences : IdTable SequenceParameterSet) (pictures : IdTable PictureParameterSet) :
    Decoder (Option SliceType) := do
  let unit ← SegmentStart.unitDecoder
  let referring ← located SegmentStart.structureName
    (SegmentStart.decoder sequences pictures unit)
  return referring.start.sliceType

/-- The slice type of a unit; the parameter sets say how wide the fields in front of it are. -/
def ofUnit (sequences : IdTable SequenceParameterSet) (pictures : IdTable PictureParameterSet)
    (unit : List UInt8) : Except Error (Option SliceType) :=
  (decoder sequences pictures).decodeUnit unit

end SliceType

end CodedVideo.Hevc
