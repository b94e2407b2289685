import CodedVideo.Decoder.Basic

/-!
# AVC buffer models

The parameters of the hypothetical reference decoder: the rates and sizes at which the coded
picture buffer is filled, and the widths of the delays that other units code.
-/

namespace CodedVideo.Avc

/-- One way to fill the coded picture buffer. -/
structure BufferSchedule where
  bitRateMinus1 : Nat
  bufferSizeMinus1 : Nat
  constantBitRate : Bool
deriving DecidableEq, Repr

/-- The parameters of the hypothetical reference decoder. -/
structure BufferModel where
  scheduleCountMinus1 : Nat
  bitRateScale : Nat
  bufferSizeScale : Nat
  schedules : List BufferSchedule
  initialRemovalDelayLengthMinus1 : Nat
  removalDelayLengthMinus1 : Nat
  outputDelayLengthMinus1 : Nat
  timeOffsetLength : Nat
deriving DecidableEq, Repr

open Decoder

/-- One way to fill the buffer. -/
def BufferSchedule.decoder : Decoder BufferSchedule := do
  let bitRateMinus1 ← unsigned
  let bufferSizeMinus1 ← unsigned
  let constantBitRate ← flag
  return { bitRateMinus1, bufferSizeMinus1, constantBitRate }

namespace BufferModel

/-- The fields of a buffer model. -/
def fields : Decoder BufferModel := do
  let scheduleCountMinus1 ← unsigned
  let bitRateScale ← bits 4
  let bufferSizeScale ← bits 4
  let schedules ← replicate (scheduleCountMinus1 + 1) BufferSchedule.decoder
  let initialRemovalDelayLengthMinus1 ← bits 5
  let removalDelayLengthMinus1 ← bits 5
  let outputDelayLengthMinus1 ← bits 5
  let timeOffsetLength ← bits 5
  return {
    scheduleCountMinus1, bitRateScale, bufferSizeScale, schedules,
    initialRemovalDelayLengthMinus1, removalDelayLengthMinus1, outputDelayLengthMinus1,
    timeOffsetLength }

/-- The grammar of a buffer model. -/
def decoder : Decoder BufferModel :=
  located "HRD" fields

end BufferModel

end CodedVideo.Avc
