import CodedVideo.Avc.SequenceParameterSet
import CodedVideo.Avc.SliceGroups
import CodedVideo.IdTable

/-!
# AVC picture parameter sets

A picture parameter set (PPS) holds for some pictures of a sequence and names the sequence parameter
set it goes with. That set is looked up only where the number of scaling lists depends on it.
-/

namespace CodedVideo.Avc

/-- What is coded behind the fields that every picture parameter set has. -/
structure TransformSettings where
  transform8x8 : Bool
  scalingLists : Option (List ScalingList)
  secondChromaQpOffset : Int
deriving DecidableEq, Repr

/-- A picture parameter set. -/
structure PictureParameterSet where
  id : Nat
  sequenceId : Nat
  /-- Arithmetic coding instead of variable length coding. -/
  arithmeticCoding : Bool
  bottomFieldOrderPresent : Bool
  sliceGroups : Option SliceGroups
  defaultActiveList0Minus1 : Nat
  defaultActiveList1Minus1 : Nat
  weightedPrediction : Bool
  weightedBipredictionIdc : Nat
  initialQpMinus26 : Int
  initialQsMinus26 : Int
  chromaQpOffset : Int
  deblockingControlPresent : Bool
  constrainedIntraPrediction : Bool
  redundantPictureCountPresent : Bool
  transform : TransformSettings
deriving DecidableEq, Repr

open Decoder

namespace TransformSettings

/-- The settings where none are coded: the second chroma offset is the first. -/
def inferred (chromaQpOffset : Int) : TransformSettings where
  transform8x8 := false
  scalingLists := none
  secondChromaQpOffset := chromaQpOffset

/-- The number of scaling lists in a picture parameter set. -/
def scalingListCount (transform8x8 : Bool) (chroma : Nat) : Nat :=
  6 + if transform8x8 then if chroma = 3 then 6 else 2 else 0

/-- Scaling lists, whose number depends on the sequence parameter set with a given identifier. -/
def scalingListDecoder (sequences : IdTable SequenceParameterSet) (sequenceId : Nat)
    (transform8x8 : Bool) : Decoder (List ScalingList) :=
  match sequences.get? sequenceId with
  | none => abort (.missingReference "PPS" "SPS" sequenceId)
  | some sequenceSet =>
      ScalingList.slots (scalingListCount transform8x8 sequenceSet.format.chroma)

/-- The grammar of the settings. -/
def decoder (sequences : IdTable SequenceParameterSet) (sequenceId : Nat) :
    Decoder TransformSettings := do
  let transform8x8 ← flag
  let scalingLists ← optional (← flag) (scalingListDecoder sequences sequenceId transform8x8)
  let secondChromaQpOffset ← signed
  return { transform8x8, scalingLists, secondChromaQpOffset }

end TransformSettings

namespace PictureParameterSet

/-- The name under which errors report the structure. -/
def structureName : String := "PPS"

/-- The fields behind the header. -/
def fields (sequences : IdTable SequenceParameterSet) : Decoder PictureParameterSet := do
  let id ← unsigned
  let sequenceId ← unsigned
  let arithmeticCoding ← flag
  let bottomFieldOrderPresent ← flag
  let sliceGroups ← SliceGroups.decoder
  let defaultActiveList0Minus1 ← unsigned
  let defaultActiveList1Minus1 ← unsigned
  let weightedPrediction ← flag
  let weightedBipredictionIdc ← bits 2
  let initialQpMinus26 ← signed
  let initialQsMinus26 ← signed
  let chromaQpOffset ← signed
  let deblockingControlPresent ← flag
  let constrainedIntraPrediction ← flag
  let redundantPictureCountPresent ← flag
  let transform ← whenElse (← hasMoreData) (.inferred chromaQpOffset)
    (TransformSettings.decoder sequences sequenceId)
  return {
    id, sequenceId, arithmeticCoding, bottomFieldOrderPresent, sliceGroups,
    defaultActiveList0Minus1, defaultActiveList1Minus1, weightedPrediction,
    weightedBipredictionIdc, initialQpMinus26, initialQsMinus26, chromaQpOffset,
    deblockingControlPresent, constrainedIntraPrediction, redundantPictureCountPresent, transform }

/-- The grammar of a unit. -/
def decoder (sequences : IdTable SequenceParameterSet) : Decoder PictureParameterSet := do
  let header ← locatedAt structureName 0 NalHeader.decoder
  require (header.unitType == .pps) (.wrongUnitType structureName header.unitType.code)
  let set ← located structureName (fields sequences)
  located structureName trailingBits
  return set

/-- Decodes a picture parameter set from its unit. -/
def ofUnit (sequences : IdTable SequenceParameterSet) (unit : List UInt8) :
    Except Error PictureParameterSet :=
  (decoder sequences).decodeUnit unit

/-! ## Derived values -/

/-- The quantiser at which slices start. -/
def initialQp (set : PictureParameterSet) : Int :=
  saturateSigned (set.initialQpMinus26 + 26)

/-- The number of map units by which a changing slice group map changes at a time. -/
def changeRate? (set : PictureParameterSet) : Option Nat :=
  set.sliceGroups.bind (·.map.changeRate?)

end PictureParameterSet

end CodedVideo.Avc
