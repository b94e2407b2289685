import CodedVideo.Hevc.BufferModel
import CodedVideo.SignalDescription
import CodedVideo.Window

/-!
# HEVC video usability information
-/

namespace CodedVideo.Hevc

/-! ## Parts -/

/-- The clock of the pictures. -/
structure Timing where
  unitsInTick : Nat
  timeScale : Nat
  /-- The ticks between pictures next to each other in output order, where that is a constant. -/
  ticksPerPictureMinus1 : Option Nat
deriving DecidableEq, Repr

/-- Promises about the coded data. -/
structure BitstreamRestriction where
  tilesFixed : Bool
  motionVectorsOverBoundaries : Bool
  restrictedReferenceLists : Bool
  minSpatialSegmentation : Nat
  maxBytesPerPictureDenominator : Nat
  maxBitsPerCodingUnitDenominator : Nat
  log2MaxHorizontalVectorLength : Nat
  log2MaxVerticalVectorLength : Nat
deriving DecidableEq, Repr

/-- Information that helps to show pictures and to plan for them, but not to decode them. -/
structure VideoUsability where
  signal : SignalDescription
  neutralChroma : Bool
  fieldSequence : Bool
  frameFieldInfoPresent : Bool
  displayWindow : Option Window
  timing : Option Timing
  /-- Only coded behind a clock. -/
  bufferModel : Option BufferModel
  restriction : Option BitstreamRestriction
deriving DecidableEq, Repr

/-! ## Grammar -/

open Decoder

namespace Timing

/-- The grammar of a clock. -/
def decoder : Decoder Timing := do
  let unitsInTick ← bits 32
  let timeScale ← bits 32
  let ticksPerPictureMinus1 ← optional (← flag) unsigned
  return { unitsInTick, timeScale, ticksPerPictureMinus1 }

/-- A number of pictures and the number of seconds they take, if the clock moves. -/
def frameRate? (timing : Timing) : Option (Nat × Nat) :=
  if timing.unitsInTick = 0 then none else some (timing.timeScale, timing.unitsInTick)

end Timing

/-- Promises about the coded data. -/
def BitstreamRestriction.decoder : Decoder BitstreamRestriction := do
  let tilesFixed ← flag
  let motionVectorsOverBoundaries ← flag
  let restrictedReferenceLists ← flag
  let minSpatialSegmentation ← unsigned
  let maxBytesPerPictureDenominator ← unsigned
  let maxBitsPerCodingUnitDenominator ← unsigned
  let log2MaxHorizontalVectorLength ← unsigned
  let log2MaxVerticalVectorLength ← unsigned
  return {
    tilesFixed, motionVectorsOverBoundaries, restrictedReferenceLists, minSpatialSegmentation,
    maxBytesPerPictureDenominator, maxBitsPerCodingUnitDenominator, log2MaxHorizontalVectorLength,
    log2MaxVerticalVectorLength }

namespace VideoUsability

/-- The fields of the usability information. -/
def fields (maxSubLayersMinus1 : Nat) : Decoder VideoUsability := do
  let signal ← SignalDescription.decoder
  let neutralChroma ← flag
  let fieldSequence ← flag
  let frameFieldInfoPresent ← flag
  let displayWindow ← optional (← flag) Window.decoder
  let timing ← optional (← flag) Timing.decoder
  let bufferModelPresent ← whenElse timing.isSome false flag
  let bufferModel ← optional bufferModelPresent (BufferModel.decoder true maxSubLayersMinus1)
  let restriction ← optional (← flag) BitstreamRestriction.decoder
  return {
    signal, neutralChroma, fieldSequence, frameFieldInfoPresent, displayWindow, timing,
    bufferModel, restriction }

/-- The grammar for a sequence of up to `maxSubLayersMinus1 + 1` sub-layers. -/
def decoder (maxSubLayersMinus1 : Nat) : Decoder VideoUsability :=
  located "VUI" (fields maxSubLayersMinus1)

end VideoUsability

end CodedVideo.Hevc
