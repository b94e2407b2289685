import CodedVideo.Decoder.Basic

/-!
# HEVC buffer models

The parameters of the hypothetical reference decoder: information that all temporal sub-layers
share, and for each of them the rates and sizes at which the coded picture buffer is filled. A model
without the shared information has the standard lengths and no schedules.
-/

namespace CodedVideo.Hevc

/-! ## Parts -/

/-- One way to fill the coded picture buffer. -/
structure BufferSchedule where
  bitRateMinus1 : Nat
  bufferSizeMinus1 : Nat
  /-- The size when single decoding units are removed; zero unless they are. -/
  unitBufferSizeMinus1 : Nat := 0
  /-- The rate when single decoding units are removed; zero unless they are. -/
  unitBitRateMinus1 : Nat := 0
  constantBitRate : Bool
deriving DecidableEq, Repr

/-- How single decoding units are removed from the buffer. -/
structure UnitRemoval where
  tickDivisorMinus2 : Nat
  delayIncrementLengthMinus1 : Nat
  inTimingMessages : Bool
  outputDelayLengthMinus1 : Nat
  bufferSizeScale : Nat
deriving DecidableEq, Repr

/-- What all sub-layers share. -/
structure SharedBufferModel where
  nalPresent : Bool := false
  vclPresent : Bool := false
  unitRemoval : Option UnitRemoval := none
  bitRateScale : Nat := 0
  bufferSizeScale : Nat := 0
  initialRemovalDelayLengthMinus1 : Nat := 23
  removalDelayLengthMinus1 : Nat := 23
  outputDelayLengthMinus1 : Nat := 23
deriving DecidableEq, Repr

/-- The picture rate and the schedules of one sub-layer. -/
structure SubLayerBufferModel where
  fixedRateInGeneral : Bool
  fixedRateInSequence : Bool
  elementalDurationMinus1 : Nat
  lowDelay : Bool
  scheduleCountMinus1 : Nat
  nal : List BufferSchedule
  vcl : List BufferSchedule
deriving DecidableEq, Repr

/-- The parameters of the hypothetical reference decoder. -/
structure BufferModel where
  shared : SharedBufferModel := {}
  subLayers : List SubLayerBufferModel := []
deriving DecidableEq, Repr

/-! ## Grammar -/

open Decoder

/-- One way to fill the buffer, with or without the removal of single decoding units. -/
def BufferSchedule.decoder (unitRemoval : Bool) : Decoder BufferSchedule := do
  let bitRateMinus1 ← unsigned
  let bufferSizeMinus1 ← unsigned
  let unitBufferSizeMinus1 ← whenElse unitRemoval 0 unsigned
  let unitBitRateMinus1 ← whenElse unitRemoval 0 unsigned
  let constantBitRate ← flag
  return {
    bitRateMinus1, bufferSizeMinus1, unitBufferSizeMinus1, unitBitRateMinus1, constantBitRate }

/-- The first fields of the removal of single decoding units; its scale is coded later. -/
def UnitRemoval.decoder : Decoder UnitRemoval := do
  let tickDivisorMinus2 ← bits 8
  let delayIncrementLengthMinus1 ← bits 5
  let inTimingMessages ← flag
  let outputDelayLengthMinus1 ← bits 5
  return {
    tickDivisorMinus2, delayIncrementLengthMinus1, inTimingMessages, outputDelayLengthMinus1
    bufferSizeScale := 0 }

namespace SharedBufferModel

/-- The fields behind the two presence flags, which are there if one of the flags is set. -/
def fields (nalPresent vclPresent : Bool) : Decoder SharedBufferModel := do
  let removal ← optional (← flag) UnitRemoval.decoder
  let bitRateScale ← bits 4
  let bufferSizeScale ← bits 4
  let unitBufferSizeScale ← whenElse removal.isSome 0 (bits 4)
  let initialRemovalDelayLengthMinus1 ← bits 5
  let removalDelayLengthMinus1 ← bits 5
  let outputDelayLengthMinus1 ← bits 5
  return {
    nalPresent, vclPresent
    unitRemoval := removal.map fun removal =>
      { removal with bufferSizeScale := unitBufferSizeScale }
    bitRateScale, bufferSizeScale, initialRemovalDelayLengthMinus1, removalDelayLengthMinus1,
    outputDelayLengthMinus1 }

/-- The grammar of what all sub-layers share. -/
def decoder : Decoder SharedBufferModel := do
  let nalPresent ← flag
  let vclPresent ← flag
  whenElse (nalPresent || vclPresent) {} (fields nalPresent vclPresent)

end SharedBufferModel

/-- The name under which errors report a buffer model. -/
def BufferModel.structureName : String := "HRD"

namespace SubLayerBufferModel

/-- The greatest number of schedules less one. -/
def maxScheduleCountMinus1 : Nat := 31

/-- The grammar of one sub-layer. -/
def decoder (shared : SharedBufferModel) : Decoder SubLayerBufferModel := do
  let fixedRateInGeneral ← flag
  let fixedRateInSequence ← whenElse (!fixedRateInGeneral) true flag
  let elementalDurationMinus1 ← whenElse fixedRateInSequence 0 unsigned
  let lowDelay ← whenElse (!fixedRateInSequence) false flag
  let scheduleCountMinus1 ← whenElse (!lowDelay) 0
    (boundedUnsigned BufferModel.structureName "cpb_cnt_minus1" maxScheduleCountMinus1)
  let schedules :=
    replicate (scheduleCountMinus1 + 1) (BufferSchedule.decoder shared.unitRemoval.isSome)
  let nal ← whenElse shared.nalPresent [] schedules
  let vcl ← whenElse shared.vclPresent [] schedules
  return {
    fixedRateInGeneral, fixedRateInSequence, elementalDurationMinus1, lowDelay,
    scheduleCountMinus1, nal, vcl }

end SubLayerBufferModel

namespace BufferModel

/-- The fields of a buffer model. -/
def fields (sharedPresent : Bool) (maxSubLayersMinus1 : Nat) : Decoder BufferModel := do
  let shared ← whenElse sharedPresent {} SharedBufferModel.decoder
  let subLayers ← replicate (maxSubLayersMinus1 + 1) (SubLayerBufferModel.decoder shared)
  return { shared, subLayers }

/-- The grammar of a buffer model, with or without what all sub-layers share. -/
def decoder (sharedPresent : Bool) (maxSubLayersMinus1 : Nat) : Decoder BufferModel :=
  located structureName (fields sharedPresent maxSubLayersMinus1)

end BufferModel

end CodedVideo.Hevc
