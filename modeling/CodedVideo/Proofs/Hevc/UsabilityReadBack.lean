import CodedVideo.Hevc.Coding
import CodedVideo.Proofs.SharedCoding

/-!
# Reading HEVC usability information back

Buffer models and usability information are consistent if they have the lengths that are coded or
known, and what is not coded has the value that a reader assumes. They are written field by field
and decoded to themselves.

Main statements: `BufferModel.decodes_coding`, `VideoUsability.decodes_coding`.
-/

namespace CodedVideo.Hevc

open CodedField (flagged onlyIf present)
open Decoder (Decodes ReadsBack)

/-! ## Buffer models -/

/-- Nothing is said of single decoding units unless they are removed. -/
def BufferSchedule.ConsistentWith (schedule : BufferSchedule) (unitRemoval : Bool) : Prop :=
  unitRemoval = false → schedule.unitBufferSizeMinus1 = 0 ∧ schedule.unitBitRateMinus1 = 0

/-- Nothing is shared unless there are schedules. -/
def SharedBufferModel.Consistent (shared : SharedBufferModel) : Prop :=
  (shared.nalPresent || shared.vclPresent) = false → shared = {}

/-- A sub-layer has as many consistent schedules of one kind as it says, if that kind is there. -/
structure SubLayerBufferModel.HasSchedules (subLayer : SubLayerBufferModel) (isThere : Bool)
    (unitRemoval : Bool) (schedules : List BufferSchedule) : Prop where
  length_eq : isThere = true → schedules.length = subLayer.scheduleCountMinus1 + 1
  none : isThere = false → schedules = []
  consistent : ∀ schedule ∈ schedules, schedule.ConsistentWith unitRemoval

/-- A rate that is fixed in general is fixed in the sequence, only a fixed rate has a duration, only
another one has a low delay, and with a low delay there is a single schedule. -/
structure SubLayerBufferModel.ConsistentWith (subLayer : SubLayerBufferModel)
    (shared : SharedBufferModel) : Prop where
  fixedRateInSequence : subLayer.fixedRateInGeneral = true → subLayer.fixedRateInSequence = true
  elementalDurationMinus1 :
    subLayer.fixedRateInSequence = false → subLayer.elementalDurationMinus1 = 0
  lowDelay : subLayer.fixedRateInSequence = true → subLayer.lowDelay = false
  scheduleCountMinus1_le : subLayer.scheduleCountMinus1 ≤ maxScheduleCountMinus1
  singleSchedule : subLayer.lowDelay = true → subLayer.scheduleCountMinus1 = 0
  nal : subLayer.HasSchedules shared.nalPresent shared.unitRemoval.isSome subLayer.nal
  vcl : subLayer.HasSchedules shared.vclPresent shared.unitRemoval.isSome subLayer.vcl

/-- The model has what is shared where that is coded, and one entry for each sub-layer. -/
structure BufferModel.ConsistentWith (model : BufferModel) (sharedPresent : Bool)
    (maxSubLayersMinus1 : Nat) : Prop where
  shared : model.shared.Consistent
  notShared : sharedPresent = false → model.shared = {}
  subLayers_length : model.subLayers.length = maxSubLayersMinus1 + 1
  subLayers : ∀ subLayer ∈ model.subLayers, subLayer.ConsistentWith model.shared

theorem BufferSchedule.decodes_coding {schedule : BufferSchedule} {unitRemoval : Bool}
    (consistent : schedule.ConsistentWith unitRemoval) :
    Decodes (BufferSchedule.decoder unitRemoval) (schedule.coding unitRemoval) schedule := by
  rw [coding, CodedField.onlyIf_cons]
  simp only [List.append_assoc, List.cons_append, List.nil_append]
  intro start stop
  refine ReadsBack.bind (.unsigned schedule.bitRateMinus1) fun mid => ?_
  refine ReadsBack.bind (.unsigned schedule.bufferSizeMinus1) fun mid => ?_
  refine ReadsBack.bind (.whenElse (.unsigned schedule.unitBufferSizeMinus1) fun notCoded =>
    (consistent notCoded).1) fun mid => ?_
  refine ReadsBack.bind (.whenElse (.unsigned schedule.unitBitRateMinus1) fun notCoded =>
    (consistent notCoded).2) fun mid => ?_
  exact ReadsBack.bind_last (.flag schedule.constantBitRate) (.done schedule)

/-- The scale of the removal of single decoding units is coded later. -/
theorem UnitRemoval.decodes_coding (removal : UnitRemoval) :
    Decodes (Decoder.optional true UnitRemoval.decoder) removal.coding
      (some { removal with bufferSizeScale := 0 }) := by
  intro start stop
  refine ReadsBack.bind (.bits removal.tickDivisorMinus2 8) fun mid => ?_
  refine ReadsBack.bind (.bits removal.delayIncrementLengthMinus1 5) fun mid => ?_
  refine ReadsBack.bind (.flag removal.inTimingMessages) fun mid => ?_
  exact ReadsBack.bind_last (.bits removal.outputDelayLengthMinus1 5) (.done _)

/-- What all sub-layers share is read back behind the two flags. The scale of the removal of single
decoding units stands apart from its other fields. -/
theorem SharedBufferModel.decodes_fields (shared : SharedBufferModel) :
    Decodes (fields shared.nalPresent shared.vclPresent)
      (flagged UnitRemoval.coding shared.unitRemoval ++
        [.bits shared.bitRateScale 4, .bits shared.bufferSizeScale 4] ++
        present (fun removal : UnitRemoval => [.bits removal.bufferSizeScale 4])
          shared.unitRemoval ++
        [.bits shared.initialRemovalDelayLengthMinus1 5, .bits shared.removalDelayLengthMinus1 5,
          .bits shared.outputDelayLengthMinus1 5])
      shared := by
  rcases shared with ⟨nalPresent, vclPresent, _ | removal, bitRateScale, bufferSizeScale,
    initialRemovalDelayLengthMinus1, removalDelayLengthMinus1, outputDelayLengthMinus1⟩
  · simp only [List.append_assoc, List.cons_append, List.nil_append]
    intro start stop
    refine ReadsBack.bind (.flag false) fun mid => ?_
    refine ReadsBack.bind_first (.done none) ?_
    refine ReadsBack.bind (.bits bitRateScale 4) fun mid => ?_
    refine ReadsBack.bind (.bits bufferSizeScale 4) fun mid => ?_
    refine ReadsBack.bind_first (.done 0) ?_
    refine ReadsBack.bind (.bits initialRemovalDelayLengthMinus1 5) fun mid => ?_
    refine ReadsBack.bind (.bits removalDelayLengthMinus1 5) fun mid => ?_
    exact ReadsBack.bind_last (.bits outputDelayLengthMinus1 5) (.done _)
  · simp only [flagged, present, Option.isSome_some, Option.map_some, Option.getD_some,
      List.append_assoc, List.cons_append, List.nil_append]
    intro start stop
    refine ReadsBack.bind (.flag true) fun mid => ?_
    refine ReadsBack.bind removal.decodes_coding fun mid => ?_
    refine ReadsBack.bind (.bits bitRateScale 4) fun mid => ?_
    refine ReadsBack.bind (.bits bufferSizeScale 4) fun mid => ?_
    refine ReadsBack.bind (.bits removal.bufferSizeScale 4) fun mid => ?_
    refine ReadsBack.bind (.bits initialRemovalDelayLengthMinus1 5) fun mid => ?_
    refine ReadsBack.bind (.bits removalDelayLengthMinus1 5) fun mid => ?_
    exact ReadsBack.bind_last (.bits outputDelayLengthMinus1 5) (.done _)

theorem SharedBufferModel.decodes_coding {shared : SharedBufferModel}
    (consistent : shared.Consistent) : Decodes SharedBufferModel.decoder shared.coding shared := by
  simp only [coding, List.cons_append, List.nil_append]
  intro start stop
  refine ReadsBack.bind (.flag shared.nalPresent) fun mid => ?_
  refine ReadsBack.bind (.flag shared.vclPresent) fun mid => ?_
  exact Decodes.whenElse shared.decodes_fields consistent mid stop

/-- A kind of schedules is read back, if it is there. -/
theorem SubLayerBufferModel.HasSchedules.decodes {subLayer : SubLayerBufferModel}
    {isThere unitRemoval : Bool} {schedules : List BufferSchedule}
    (has : subLayer.HasSchedules isThere unitRemoval schedules) :
    Decodes
      (Decoder.whenElse isThere [] (Decoder.replicate (subLayer.scheduleCountMinus1 + 1)
        (BufferSchedule.decoder unitRemoval)))
      (onlyIf isThere (schedules.flatMap (BufferSchedule.coding unitRemoval))) schedules :=
  .whenElse_of (fun isCoded => .replicate (has.length_eq isCoded) fun schedule isScheduled =>
    BufferSchedule.decodes_coding (has.consistent schedule isScheduled)) has.none

theorem SubLayerBufferModel.decodes_coding {subLayer : SubLayerBufferModel}
    {shared : SharedBufferModel} (consistent : subLayer.ConsistentWith shared) :
    Decodes (decoder shared) (coding shared subLayer) subLayer := by
  simp only [coding, CodedField.ite_eq_onlyIf, List.append_assoc, List.cons_append,
    List.nil_append]
  intro start stop
  refine ReadsBack.bind (.flag subLayer.fixedRateInGeneral) fun mid => ?_
  refine ReadsBack.bind (.whenElse (.flag subLayer.fixedRateInSequence) fun notCoded =>
    consistent.fixedRateInSequence (Bool.not_eq_eq_eq_not.mp notCoded)) fun mid => ?_
  refine ReadsBack.bind (.whenElse (.unsigned subLayer.elementalDurationMinus1)
    consistent.elementalDurationMinus1) fun mid => ?_
  refine ReadsBack.bind (.whenElse (.flag subLayer.lowDelay) fun notCoded =>
    consistent.lowDelay (Bool.not_eq_eq_eq_not.mp notCoded)) fun mid => ?_
  refine ReadsBack.bind (.whenElse (.boundedUnsigned consistent.scheduleCountMinus1_le)
    fun notCoded => consistent.singleSchedule (Bool.not_eq_eq_eq_not.mp notCoded)) fun mid => ?_
  refine ReadsBack.bind consistent.nal.decodes fun mid => ?_
  exact ReadsBack.bind_last consistent.vcl.decodes (.done subLayer)

theorem BufferModel.decodes_coding {model : BufferModel} {sharedPresent : Bool}
    {maxSubLayersMinus1 : Nat} (consistent : model.ConsistentWith sharedPresent maxSubLayersMinus1) :
    Decodes (decoder sharedPresent maxSubLayersMinus1) (model.coding sharedPresent) model := by
  apply Decodes.within
  intro start stop
  refine ReadsBack.bind (.whenElse (SharedBufferModel.decodes_coding consistent.shared)
    consistent.notShared) fun mid => ?_
  exact ReadsBack.bind_last (.replicate consistent.subLayers_length fun subLayer isThere =>
    SubLayerBufferModel.decodes_coding (consistent.subLayers subLayer isThere)) (.done model)

/-! ## Video usability information -/

/-- There is no buffer model without a clock. -/
structure VideoUsability.ConsistentWith (usability : VideoUsability) (maxSubLayersMinus1 : Nat) :
    Prop where
  signal : usability.signal.Consistent
  noBufferModel : usability.timing = none → usability.bufferModel = none
  bufferModel : ∀ model ∈ usability.bufferModel, model.ConsistentWith true maxSubLayersMinus1

theorem Timing.decodes_coding (timing : Timing) : Decodes Timing.decoder timing.coding timing := by
  simp only [coding, List.cons_append, List.nil_append]
  intro start stop
  refine ReadsBack.bind (.bits timing.unitsInTick 32) fun mid => ?_
  refine ReadsBack.bind (.bits timing.timeScale 32) fun mid => ?_
  exact ReadsBack.optionalBehindFlag_last (fun ticks _ => .unsigned ticks) (.done timing)

theorem BitstreamRestriction.decodes_coding (restriction : BitstreamRestriction) :
    Decodes BitstreamRestriction.decoder restriction.coding restriction := by
  intro start stop
  refine ReadsBack.bind (.flag restriction.tilesFixed) fun mid => ?_
  refine ReadsBack.bind (.flag restriction.motionVectorsOverBoundaries) fun mid => ?_
  refine ReadsBack.bind (.flag restriction.restrictedReferenceLists) fun mid => ?_
  refine ReadsBack.bind (.unsigned restriction.minSpatialSegmentation) fun mid => ?_
  refine ReadsBack.bind (.unsigned restriction.maxBytesPerPictureDenominator) fun mid => ?_
  refine ReadsBack.bind (.unsigned restriction.maxBitsPerCodingUnitDenominator) fun mid => ?_
  refine ReadsBack.bind (.unsigned restriction.log2MaxHorizontalVectorLength) fun mid => ?_
  exact ReadsBack.bind_last (.unsigned restriction.log2MaxVerticalVectorLength)
    (.done restriction)

/-- The flag of the buffer model stands behind a clock only. -/
theorem VideoUsability.ConsistentWith.decodes_bufferModel {usability : VideoUsability}
    {maxSubLayersMinus1 : Nat} (consistent : usability.ConsistentWith maxSubLayersMinus1) :
    Decodes
      ((Decoder.whenElse usability.timing.isSome false Decoder.flag).bind fun isThere =>
        Decoder.optional isThere (BufferModel.decoder true maxSubLayersMinus1))
      (onlyIf usability.timing.isSome (flagged (BufferModel.coding true) usability.bufferModel))
      usability.bufferModel := by
  cases timing_eq : usability.timing with
  | none =>
      rw [consistent.noBufferModel timing_eq]
      exact .done none
  | some timing =>
      exact .optionalBehindFlag fun model isThere =>
        BufferModel.decodes_coding (consistent.bufferModel model isThere)

theorem VideoUsability.decodes_coding {usability : VideoUsability} {maxSubLayersMinus1 : Nat}
    (consistent : usability.ConsistentWith maxSubLayersMinus1) :
    Decodes (decoder maxSubLayersMinus1) usability.coding usability := by
  apply Decodes.within
  simp only [coding, List.append_assoc, List.cons_append, List.nil_append]
  intro start stop
  refine ReadsBack.bind (SignalDescription.decodes_coding consistent.signal) fun mid => ?_
  refine ReadsBack.bind (.flag usability.neutralChroma) fun mid => ?_
  refine ReadsBack.bind (.flag usability.fieldSequence) fun mid => ?_
  refine ReadsBack.bind (.flag usability.frameFieldInfoPresent) fun mid => ?_
  refine ReadsBack.optionalBehindFlag_bind (fun window _ => window.decodes_coding) fun mid => ?_
  refine ReadsBack.optionalBehindFlag_bind (fun timing _ => timing.decodes_coding) fun mid => ?_
  refine ReadsBack.bind_pair consistent.decodes_bufferModel fun mid => ?_
  exact ReadsBack.optionalBehindFlag_last (fun restriction _ => restriction.decodes_coding)
    (.done usability)

end CodedVideo.Hevc
