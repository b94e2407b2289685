import CodedVideo.Avc.BufferModel
import CodedVideo.Saturation
import CodedVideo.SignalDescription

/-!
# AVC video usability information
-/

namespace CodedVideo.Avc

/-- The clock of the pictures. -/
structure Timing where
  unitsInTick : Nat
  timeScale : Nat
  fixedFrameRate : Bool
deriving DecidableEq, Repr

/-- Promises about the coded data. -/
structure BitstreamRestriction where
  motionVectorsOverBoundaries : Bool
  maxBytesPerPictureDenominator : Nat
  maxBitsPerMacroblockDenominator : Nat
  log2MaxHorizontalVectorLength : Nat
  log2MaxVerticalVectorLength : Nat
  maxReorderFrames : Nat
  maxFrameBuffering : Nat
deriving DecidableEq, Repr

/-- Information that helps to show pictures and to plan for them, but not to decode them. -/
structure VideoUsability where
  signal : SignalDescription
  timing : Option Timing
  nalBufferModel : Option BufferModel
  vclBufferModel : Option BufferModel
  /-- Only coded next to a buffer model. -/
  lowDelay : Bool
  pictureStructurePresent : Bool
  restriction : Option BitstreamRestriction
deriving DecidableEq, Repr

open Decoder

/-- The clock of the pictures. -/
def Timing.decoder : Decoder Timing := do
  let unitsInTick ← bits 32
  let timeScale ← bits 32
  let fixedFrameRate ← flag
  return { unitsInTick, timeScale, fixedFrameRate }

/-- Promises about the coded data. -/
def BitstreamRestriction.decoder : Decoder BitstreamRestriction := do
  let motionVectorsOverBoundaries ← flag
  let maxBytesPerPictureDenominator ← unsigned
  let maxBitsPerMacroblockDenominator ← unsigned
  let log2MaxHorizontalVectorLength ← unsigned
  let log2MaxVerticalVectorLength ← unsigned
  let maxReorderFrames ← unsigned
  let maxFrameBuffering ← unsigned
  return {
    motionVectorsOverBoundaries, maxBytesPerPictureDenominator, maxBitsPerMacroblockDenominator,
    log2MaxHorizontalVectorLength, log2MaxVerticalVectorLength, maxReorderFrames,
    maxFrameBuffering }

namespace VideoUsability

/-- The fields of the usability information. -/
def fields : Decoder VideoUsability := do
  let signal ← SignalDescription.decoder
  let timing ← optional (← flag) Timing.decoder
  let nalBufferModel ← optional (← flag) BufferModel.decoder
  let vclBufferModel ← optional (← flag) BufferModel.decoder
  let lowDelay ← whenElse (nalBufferModel.isSome || vclBufferModel.isSome) false flag
  let pictureStructurePresent ← flag
  let restriction ← optional (← flag) BitstreamRestriction.decoder
  return {
    signal, timing, nalBufferModel, vclBufferModel, lowDelay, pictureStructurePresent,
    restriction }

/-- The grammar of the usability information. -/
def decoder : Decoder VideoUsability :=
  located "VUI" fields

/-- A number of pictures and the number of clock seconds they take, if the clock is coded and moves.
A picture takes two ticks. -/
def frameRate? (usability : VideoUsability) : Option (Nat × Nat) :=
  (usability.timing.filter (·.unitsInTick != 0)).map fun timing =>
    (timing.timeScale, saturate (timing.unitsInTick * 2))

end VideoUsability

end CodedVideo.Avc
