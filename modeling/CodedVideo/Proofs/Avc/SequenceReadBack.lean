import CodedVideo.Proofs.NalUnit.StoredBytes
import CodedVideo.Proofs.NalUnit.WrittenUnit
import CodedVideo.Proofs.SharedCoding
import CodedVideo.Proofs.UnitHeaders

/-!
# Reading AVC sequence parameter sets back

A set is consistent if each field that it codes has the width or the range of its form, lists have
the lengths that are coded or known, and what is not coded has the value that a reader assumes. Such
a set, written field by field, is decoded to itself. Only the two numbers of stored bytes are not
coded: a reader counts them in the unit.

Main statement: `SequenceParameterSet.ofUnit_written_set`.
-/

namespace CodedVideo.Avc

open CodedField (codeAll flagged onlyIf present)
open Decoder (Decodes ReadsBack)

/-! ## Scaling lists -/

namespace ScalingList

/-- An explicit list has as many weights as its slot asks for, and none of them is zero. -/
def ConsistentWith (slot : Nat) : ScalingList → Prop
  | notPresent | useDefault => True
  | explicit weights =>
      weights.length = sizeOfSlot slot ∧ ∀ weight ∈ weights, weight ≠ 0 ∧ weight < 256

instance (slot : Nat) : (list : ScalingList) → Decidable (list.ConsistentWith slot)
  | notPresent | useDefault => inferInstanceAs (Decidable True)
  | explicit _ => inferInstanceAs (Decidable (_ ∧ _))

/-- Weights other than zero are decoded behind the others. -/
theorem decodes_along {weights : List Nat}
    (areWeights : ∀ weight ∈ weights, weight ≠ 0 ∧ weight < 256) (last : Nat) (others : List Nat) :
    Decodes (weightsAfter weights.length last others)
      ((ByteDifference.along last weights).map .signed) (others.reverse ++ weights) := by
  induction weights generalizing last others with
  | nil =>
      rw [List.append_nil]
      exact .done others.reverse
  | cons weight weights inductionHypothesis =>
      rw [List.forall_mem_cons] at areWeights
      obtain ⟨⟨notZero, isByte⟩, areWeights⟩ := areWeights
      have following := inductionHypothesis areWeights weight (weight :: others)
      rw [List.reverse_cons, List.append_assoc] at following
      intro start stop
      refine ReadsBack.bind (.signed (ByteDifference.between last weight)) fun mid => ?_
      rw [ByteDifference.next_between last isByte, if_neg notZero]
      exact following mid stop

theorem decodes_coding {list : ScalingList} {slot : Nat} (consistent : list.ConsistentWith slot) :
    Decodes (decoder slot) list.coding list := by
  intro start stop
  cases list with
  | notPresent => exact ReadsBack.bind_last (.flag false) (.done _)
  | useDefault =>
      refine ReadsBack.bind (.flag true) fun mid => ?_
      refine ReadsBack.bind_last (.signed (ByteDifference.between 8 0)) ?_
      exact ReadsBack.done _
  | explicit weights =>
      obtain ⟨length_eq, areWeights⟩ := consistent
      rcases weights with _ | ⟨first, weights⟩
      · -- No slot is empty.
        rw [sizeOfSlot] at length_eq
        split at length_eq <;> contradiction
      · rw [List.forall_mem_cons] at areWeights
        obtain ⟨⟨notZero, isByte⟩, areWeights⟩ := areWeights
        have size_eq : sizeOfSlot slot - 1 = weights.length := by
          rw [← length_eq, List.length_cons, Nat.add_sub_cancel]
        refine ReadsBack.bind (.flag true) fun mid => ?_
        refine ReadsBack.bind (.signed (ByteDifference.between 8 first)) fun mid => ?_
        rw [ByteDifference.next_between 8 isByte, if_neg notZero, size_eq]
        exact ReadsBack.bind_last (decodes_along areWeights first [first]) (.done _)

end ScalingList

/-! ## Video usability information -/

/-- A buffer model has as many schedules as it says. -/
def BufferModel.Consistent (model : BufferModel) : Prop :=
  model.schedules.length = model.scheduleCountMinus1 + 1

/-- The parts are consistent, and pictures are removed late only from a buffer that is modelled. -/
structure VideoUsability.Consistent (usability : VideoUsability) : Prop where
  signal : usability.signal.Consistent
  nalBufferModel : ∀ model ∈ usability.nalBufferModel, model.Consistent
  vclBufferModel : ∀ model ∈ usability.vclBufferModel, model.Consistent
  lowDelay : (usability.nalBufferModel.isSome || usability.vclBufferModel.isSome) = false →
    usability.lowDelay = false

theorem BufferSchedule.decodes_coding (schedule : BufferSchedule) :
    Decodes BufferSchedule.decoder schedule.coding schedule := by
  intro start stop
  refine ReadsBack.bind (.unsigned schedule.bitRateMinus1) fun mid => ?_
  refine ReadsBack.bind (.unsigned schedule.bufferSizeMinus1) fun mid => ?_
  exact ReadsBack.bind_last (.flag schedule.constantBitRate) (.done schedule)

theorem BufferModel.decodes_coding {model : BufferModel} (consistent : model.Consistent) :
    Decodes BufferModel.decoder model.coding model := by
  apply Decodes.within
  simp only [coding, List.cons_append, List.nil_append]
  intro start stop
  refine ReadsBack.bind (.unsigned model.scheduleCountMinus1) fun mid => ?_
  refine ReadsBack.bind (.bits model.bitRateScale 4) fun mid => ?_
  refine ReadsBack.bind (.bits model.bufferSizeScale 4) fun mid => ?_
  refine ReadsBack.bind (.replicate consistent fun schedule _ => schedule.decodes_coding)
    fun mid => ?_
  refine ReadsBack.bind (.bits model.initialRemovalDelayLengthMinus1 5) fun mid => ?_
  refine ReadsBack.bind (.bits model.removalDelayLengthMinus1 5) fun mid => ?_
  refine ReadsBack.bind (.bits model.outputDelayLengthMinus1 5) fun mid => ?_
  exact ReadsBack.bind_last (.bits model.timeOffsetLength 5) (.done model)

theorem Timing.decodes_coding (timing : Timing) : Decodes Timing.decoder timing.coding timing := by
  intro start stop
  refine ReadsBack.bind (.bits timing.unitsInTick 32) fun mid => ?_
  refine ReadsBack.bind (.bits timing.timeScale 32) fun mid => ?_
  exact ReadsBack.bind_last (.flag timing.fixedFrameRate) (.done timing)

theorem BitstreamRestriction.decodes_coding (restriction : BitstreamRestriction) :
    Decodes BitstreamRestriction.decoder restriction.coding restriction := by
  intro start stop
  refine ReadsBack.bind (.flag restriction.motionVectorsOverBoundaries) fun mid => ?_
  refine ReadsBack.bind (.unsigned restriction.maxBytesPerPictureDenominator) fun mid => ?_
  refine ReadsBack.bind (.unsigned restriction.maxBitsPerMacroblockDenominator) fun mid => ?_
  refine ReadsBack.bind (.unsigned restriction.log2MaxHorizontalVectorLength) fun mid => ?_
  refine ReadsBack.bind (.unsigned restriction.log2MaxVerticalVectorLength) fun mid => ?_
  refine ReadsBack.bind (.unsigned restriction.maxReorderFrames) fun mid => ?_
  exact ReadsBack.bind_last (.unsigned restriction.maxFrameBuffering) (.done restriction)

theorem VideoUsability.decodes_coding {usability : VideoUsability}
    (consistent : usability.Consistent) :
    Decodes VideoUsability.decoder usability.coding usability := by
  apply Decodes.within
  simp only [coding, List.append_assoc, List.cons_append, List.nil_append]
  intro start stop
  refine ReadsBack.bind (SignalDescription.decodes_coding consistent.signal) fun mid => ?_
  refine ReadsBack.optionalBehindFlag_bind (fun timing _ => timing.decodes_coding) fun mid => ?_
  refine ReadsBack.optionalBehindFlag_bind (fun model isThere =>
    BufferModel.decodes_coding (consistent.nalBufferModel model isThere)) fun mid => ?_
  refine ReadsBack.optionalBehindFlag_bind (fun model isThere =>
    BufferModel.decodes_coding (consistent.vclBufferModel model isThere)) fun mid => ?_
  refine ReadsBack.bind (.whenElse (.flag usability.lowDelay) consistent.lowDelay) fun mid => ?_
  refine ReadsBack.bind (.flag usability.pictureStructurePresent) fun mid => ?_
  exact ReadsBack.optionalBehindFlag_last (fun restriction _ => restriction.decodes_coding)
    (.done usability)

/-! ## Sequence parameter sets -/

/-- Only 4:4:4 has separate planes, and there is a slot for each scaling list. -/
structure SampleFormat.Consistent (format : SampleFormat) : Prop where
  chroma_le : format.chroma ≤ 3
  separatePlanes : format.chroma ≠ 3 → format.separatePlanes = false
  scalingLists_length : ∀ lists ∈ format.scalingLists,
    lists.length = scalingListCount format.chroma
  scalingLists : ∀ lists ∈ format.scalingLists, ∀ entry ∈ lists.zipIdx,
    entry.1.ConsistentWith entry.2

/-- A kind that has fields of its own is not taken for one that has none. -/
def PictureOrder.Consistent : PictureOrder → Prop
  | lowBits _ | cycle _ _ _ _ => True
  | decodingOrder kind => kind ≠ 0 ∧ kind ≠ 1

/-- The set can be written: each field that is coded has the width or the range of its form, the
parts are consistent, and what is not coded has the value that a reader assumes. -/
structure SequenceParameterSet.Consistent (set : SequenceParameterSet) : Prop where
  exact : ∀ field ∈ set.coding, field.Exact
  format : SampleFormat.codingProfiles.contains set.profileIdc = true → set.format.Consistent
  standardFormat :
    SampleFormat.codingProfiles.contains set.profileIdc = false → set.format = .standard
  pictureOrder : set.pictureOrder.Consistent
  adaptiveFrameField : set.framesOnly = true → set.adaptiveFrameField = false
  usability : ∀ usability ∈ set.usability, usability.Consistent

theorem SampleFormat.decodes_coding {format : SampleFormat} (consistent : format.Consistent) :
    Decodes SampleFormat.decoder format.coding format := by
  simp only [coding, List.append_assoc, List.cons_append, List.nil_append]
  intro start stop
  refine ReadsBack.bind (.boundedUnsigned consistent.chroma_le) fun mid => ?_
  refine ReadsBack.bind (.whenElse (.flag format.separatePlanes) fun notCoded =>
    consistent.separatePlanes (beq_eq_false_iff_ne.mp notCoded)) fun mid => ?_
  refine ReadsBack.bind (.unsigned format.lumaDepthMinus8) fun mid => ?_
  refine ReadsBack.bind (.unsigned format.chromaDepthMinus8) fun mid => ?_
  refine ReadsBack.bind (.flag format.losslessBypass) fun mid => ?_
  refine ReadsBack.optionalBehindFlag_last (fun lists isThere => ?_) (.done format)
  exact .times (consistent.scalingLists_length lists isThere) fun entry isEntry =>
    ScalingList.decodes_coding (consistent.scalingLists lists isThere entry isEntry)

theorem PictureOrder.decodes_coding {order : PictureOrder} (consistent : order.Consistent) :
    Decodes PictureOrder.decoder order.coding order := by
  intro start stop
  cases order with
  | lowBits log2MaxMinus4 =>
      refine ReadsBack.bind (.unsigned 0) fun mid => ?_
      exact ReadsBack.bind_last (.unsigned log2MaxMinus4) (.done _)
  | cycle alwaysZero nonReferenceOffset topToBottomOffset referenceOffsets =>
      simp only [coding, List.cons_append, List.nil_append]
      refine ReadsBack.bind (.unsigned 1) fun mid => ?_
      refine ReadsBack.bind (.flag alwaysZero) fun mid => ?_
      refine ReadsBack.bind (.signed nonReferenceOffset) fun mid => ?_
      refine ReadsBack.bind (.signed topToBottomOffset) fun mid => ?_
      refine ReadsBack.bind (.unsigned referenceOffsets.length) fun mid => ?_
      exact ReadsBack.bind_last (.replicate_map rfl .signed) (.done _)
  | decodingOrder kind =>
      obtain ⟨notLowBits, notCycle⟩ := consistent
      refine ReadsBack.bind_last (.unsigned kind) ?_
      rcases kind with _ | _ | kind
      · contradiction
      · contradiction
      · exact ReadsBack.done _

namespace SequenceParameterSet

/-- The header of a unit that holds a sequence parameter set. -/
abbrev headerOf (refIdc : Nat) : NalHeader :=
  { refIdc, unitType := .sps }

theorem decodes_unitHeader (refIdc : Nat) : Decodes unitHeader (headerOf refIdc).coding () := by
  intro start stop
  refine ReadsBack.bind_last (.within (NalHeader.decodes_coding rfl)) ?_
  exact Decodes.require rfl stop stop

/-- The fields in front of the usability information are read back, and so is whether it follows. -/
theorem decodes_frontCoding {set : SequenceParameterSet} (consistent : set.Consistent) :
    Decodes fields set.frontCoding
      ({ set with usability := none, bytesBeforeUsability := 0, bytesRead := 0 },
        set.usability.isSome) := by
  simp only [frontCoding, List.append_assoc, List.cons_append, List.nil_append]
  intro start stop
  refine ReadsBack.bind (.bits set.profileIdc 8) fun mid => ?_
  refine ReadsBack.bind (.bits set.constraintFlags 8) fun mid => ?_
  refine ReadsBack.bind (.bits set.levelIdc 8) fun mid => ?_
  refine ReadsBack.bind (.unsigned set.id) fun mid => ?_
  refine ReadsBack.bind (.whenElse_of (fun isCoded =>
    SampleFormat.decodes_coding (consistent.format isCoded)) consistent.standardFormat)
      fun mid => ?_
  refine ReadsBack.bind (.unsigned set.log2MaxFrameNumMinus4) fun mid => ?_
  refine ReadsBack.bind (PictureOrder.decodes_coding consistent.pictureOrder) fun mid => ?_
  refine ReadsBack.bind (.unsigned set.maxReferenceFrames) fun mid => ?_
  refine ReadsBack.bind (.flag set.frameNumGapsAllowed) fun mid => ?_
  refine ReadsBack.bind (.unsigned set.widthInMacroblocksMinus1) fun mid => ?_
  refine ReadsBack.bind (.unsigned set.heightInMapUnitsMinus1) fun mid => ?_
  refine ReadsBack.bind (.flag set.framesOnly) fun mid => ?_
  refine ReadsBack.bind (.whenElse (.flag set.adaptiveFrameField) fun notCoded =>
    consistent.adaptiveFrameField (Bool.not_eq_eq_eq_not.mp notCoded)) fun mid => ?_
  refine ReadsBack.bind (.flag set.direct8x8Inference) fun mid => ?_
  refine ReadsBack.optionalBehindFlag_bind (fun window _ => window.decodes_coding) fun mid => ?_
  exact ReadsBack.bind_last (.flag set.usability.isSome) (.done _)

/-- The usability information is read back where it follows. -/
theorem decodes_usability {set : SequenceParameterSet} (consistent : set.Consistent) :
    Decodes (Decoder.optional set.usability.isSome VideoUsability.decoder)
      (present VideoUsability.coding set.usability) set.usability :=
  .optional rfl fun usability isThere =>
    VideoUsability.decodes_coding (consistent.usability usability isThere)

theorem exact_headerOf {refIdc : Nat} (refIdc_lt : refIdc < 4) :
    ∀ field ∈ (headerOf refIdc).coding, field.Exact := by
  have code_lt : NalUnitType.sps.code < 32 := by decide
  exact NalHeader.exact_coding refIdc_lt code_lt

/-- The stages decode a consistent set from a unit whose payload is that of the set, and note the
numbers of stored bytes in front of the usability information and behind it. -/
theorem ofUnit_of_payload {set : SequenceParameterSet} (consistent : set.Consistent) {refIdc : Nat}
    (refIdc_lt : refIdc < 4) {unit : List UInt8}
    (payload_eq : PlainReader.ofBytes (Emulation.remove unit) = PlainReader.before 0
      (codeAll ((headerOf refIdc).coding ++ set.coding ++ [.trailing]) 0)) :
    ∃ beforeUsability read,
      ofUnit unit = .ok { set with bytesBeforeUsability := beforeUsability, bytesRead := read } ∧
        Emulation.StoredThrough unit
          (codeAll ((headerOf refIdc).coding ++ set.frontCoding) 0).length beforeUsability ∧
        Emulation.StoredThrough unit
          (codeAll ((headerOf refIdc).coding ++ set.coding) 0).length read := by
  have setExact := consistent.exact
  rw [coding, List.forall_mem_append] at setExact
  obtain ⟨frontExact, usabilityExact⟩ := setExact
  have starts := EscapedReader.between_ofUnit payload_eq
  simp only [coding, List.append_assoc] at starts ⊢
  obtain ⟨opened, opened_eq, openeds⟩ :=
    starts.decodes (decodes_unitHeader refIdc) (exact_headerOf refIdc_lt)
  obtain ⟨flagged, flagged_eq, flaggeds⟩ :=
    openeds.decodes (.within (decodes_frontCoding consistent)) frontExact
  obtain ⟨written, written_eq, writtens⟩ :=
    flaggeds.decodes (.within (decodes_usability consistent)) usabilityExact
  obtain ⟨last, last_eq, _⟩ :=
    writtens.run_ok (Decoder.ReadsToEnd.within .trailingBits (by decide))
  have storedBefore := flaggeds.storedThrough
  have storedThrough := writtens.storedThrough
  rw [List.nil_append] at storedBefore storedThrough
  rw [List.append_assoc] at storedThrough
  refine ⟨flagged.bytesRead, written.bytesRead, ?_, storedBefore, storedThrough⟩
  rw [ofUnit, Staged.onUnit, stages, Staged.decode_bind_apply, opened_eq]
  dsimp only
  rw [Staged.decode_bind_apply, Decoder.located, flagged_eq]
  dsimp only
  rw [Staged.bytesRead_bind_apply, Staged.decode_bind_apply, Decoder.located, written_eq]
  dsimp only
  rw [Staged.bytesRead_bind_apply, Staged.decode_bind_apply, Decoder.located, last_eq]
  rfl

/-- A consistent set is written to a unit, and the unit is decoded to that set. Only the numbers of
stored bytes are those of the unit: the bytes that belong to the bits that were written up to the
flag in front of the usability information, and up to the end of that information. -/
theorem ofUnit_written_set {set : SequenceParameterSet} (consistent : set.Consistent) {refIdc : Nat}
    (refIdc_lt : refIdc < 4) :
    ∃ (flagged written : EscapedWriter) (unit : List UInt8) (beforeUsability read : Nat),
      CodedField.writeAll ((headerOf refIdc).coding ++ set.frontCoding) {} = .ok flagged ∧
        CodedField.writeAll (present VideoUsability.coding set.usability) flagged = .ok written ∧
        set.toUnit refIdc = .ok unit ∧
        ofUnit unit =
          .ok { set with bytesBeforeUsability := beforeUsability, bytesRead := read } ∧
        Emulation.StoredThrough unit (BitSink.bitsWritten flagged) beforeUsability ∧
        Emulation.StoredThrough unit (BitSink.bitsWritten written) read := by
  have exact : ∀ field ∈ (headerOf refIdc).coding ++ set.coding, field.Exact :=
    List.forall_mem_append.mpr ⟨exact_headerOf refIdc_lt, consistent.exact⟩
  have partsExact := exact
  rw [coding, ← List.append_assoc] at partsExact
  obtain ⟨flagged, written, flagged_eq, written_eq, flaggedBits, writtenBits⟩ :=
    CodedField.exists_writeAll_parts partsExact
  have allFit : ∀ field ∈ (headerOf refIdc).coding ++ set.coding ++ [.trailing], field.Fits := by
    rw [List.forall_mem_append, List.forall_mem_singleton]
    exact ⟨fun field isThere => (exact field isThere).1, trivial⟩
  obtain ⟨unit, unit_eq, payload_eq⟩ := CodedField.exists_toUnit_trailing allFit
  obtain ⟨beforeUsability, read, decoded, storedBefore, storedThrough⟩ :=
    ofUnit_of_payload consistent refIdc_lt payload_eq
  rw [← flaggedBits] at storedBefore
  rw [coding, ← List.append_assoc, ← writtenBits] at storedThrough
  exact ⟨flagged, written, unit, beforeUsability, read, flagged_eq, written_eq, unit_eq, decoded,
    storedBefore, storedThrough⟩

/-! ### A set with all parts -/

/-- A set in which every optional part is there. -/
def fullSample : SequenceParameterSet where
  profileIdc := 244
  constraintFlags := 0b00010000
  levelIdc := 40
  id := 3
  format := {
    chroma := 3
    separatePlanes := true
    lumaDepthMinus8 := 2
    chromaDepthMinus8 := 2
    losslessBypass := true
    scalingLists := some (
      [.explicit (List.range' 240 16), .notPresent, .useDefault] ++ List.replicate 3 .notPresent ++
        [.explicit (List.replicate 64 9)] ++ List.replicate 5 .useDefault) }
  log2MaxFrameNumMinus4 := 4
  pictureOrder := .cycle false (-2) 1 [4, -4]
  maxReferenceFrames := 4
  frameNumGapsAllowed := true
  widthInMacroblocksMinus1 := 119
  heightInMapUnitsMinus1 := 33
  framesOnly := false
  adaptiveFrameField := true
  direct8x8Inference := true
  cropping := some { left := 0, right := 0, top := 0, bottom := 4 }
  usability := some {
    signal := {
      aspectRatio := some { index := 255, ratio := { width := 4, height := 3 } }
      overscan := some false
      signalType := some {
        format := 5
        fullRange := false
        colour := some { primaries := 1, transferCharacteristics := 1, matrixCoefficients := 1 } }
      chromaLocation := some { topField := 0, bottomField := 1 } }
    timing := some { unitsInTick := 1, timeScale := 50, fixedFrameRate := true }
    nalBufferModel := some {
      scheduleCountMinus1 := 1
      bitRateScale := 2
      bufferSizeScale := 4
      schedules := [
        { bitRateMinus1 := 999, bufferSizeMinus1 := 1999, constantBitRate := false },
        { bitRateMinus1 := 1999, bufferSizeMinus1 := 3999, constantBitRate := true }]
      initialRemovalDelayLengthMinus1 := 23
      removalDelayLengthMinus1 := 15
      outputDelayLengthMinus1 := 5
      timeOffsetLength := 24 }
    vclBufferModel := some {
      scheduleCountMinus1 := 0
      bitRateScale := 0
      bufferSizeScale := 0
      schedules := [{ bitRateMinus1 := 0, bufferSizeMinus1 := 0, constantBitRate := false }]
      initialRemovalDelayLengthMinus1 := 0
      removalDelayLengthMinus1 := 0
      outputDelayLengthMinus1 := 31
      timeOffsetLength := 0 }
    lowDelay := true
    pictureStructurePresent := true
    restriction := some {
      motionVectorsOverBoundaries := true
      maxBytesPerPictureDenominator := 2
      maxBitsPerMacroblockDenominator := 1
      log2MaxHorizontalVectorLength := 13
      log2MaxVerticalVectorLength := 9
      maxReorderFrames := 2
      maxFrameBuffering := 4 } }
  bytesBeforeUsability := 0
  bytesRead := 0

theorem consistent_fullSample : fullSample.Consistent where
  exact := by decide +kernel
  format _ := by
    refine ⟨by decide, by decide, ?_, ?_⟩
    · rintro lists ⟨⟩
      decide
    · rintro lists ⟨⟩
      decide +kernel
  standardFormat := by decide
  pictureOrder := trivial
  adaptiveFrameField := by decide
  usability := by
    rintro usability ⟨⟩
    refine ⟨?_, ?_, ?_, by decide⟩
    · rintro aspect ⟨⟩ notExtended
      exact absurd rfl notExtended
    · rintro model ⟨⟩
      rfl
    · rintro model ⟨⟩
      rfl

/-- The sample is written and decoded. -/
theorem ofUnit_written_fullSample :
    ∃ (flagged written : EscapedWriter) (unit : List UInt8) (beforeUsability read : Nat),
      CodedField.writeAll ((headerOf 3).coding ++ fullSample.frontCoding) {} = .ok flagged ∧
        CodedField.writeAll (present VideoUsability.coding fullSample.usability) flagged =
          .ok written ∧
        fullSample.toUnit 3 = .ok unit ∧
        ofUnit unit = .ok { fullSample with
          bytesBeforeUsability := beforeUsability, bytesRead := read } ∧
        Emulation.StoredThrough unit (BitSink.bitsWritten flagged) beforeUsability ∧
        Emulation.StoredThrough unit (BitSink.bitsWritten written) read :=
  ofUnit_written_set consistent_fullSample (by decide)

end SequenceParameterSet

end CodedVideo.Avc
