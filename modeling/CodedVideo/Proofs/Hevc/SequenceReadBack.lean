import CodedVideo.Proofs.Hevc.DecodedSets
import CodedVideo.Proofs.Hevc.ReferencesReadBack
import CodedVideo.Proofs.Hevc.SetPartsReadBack
import CodedVideo.Proofs.Hevc.UsabilityReadBack
import CodedVideo.Proofs.NalUnit.WrittenUnit
import CodedVideo.Proofs.UnitHeaders

/-!
# Reading HEVC sequence parameter sets back

A set is consistent if its values lie in the ranges that a reader asks for, each field that it codes
has the width or the range of its form, lists have the lengths that are coded or known, and what is
not coded has the value that a reader assumes. Such a set, written field by field, is decoded to
itself. Behind extension flags that are set, whatever data follows, the set is all that is decoded.

Main statement: `SequenceParameterSet.ofUnit_written_sequence`.
-/

namespace CodedVideo.Hevc

open CodedField (codeAll flagged onlyIf present)
open Decoder (Decodes ReadsBack ReadsToEnd)

/-! ## Parts -/

/-- Lists that are coded are all coded themselves. -/
def Scaling.Consistent : Scaling → Prop
  | flat | standard => True
  | coded lists => lists.Explicit

theorem BlockSizes.decodes_coding {blocks : BlockSizes} (consistent : blocks.Consistent) :
    Decodes BlockSizes.decoder blocks.coding blocks := by
  rcases consistent with ⟨coding_le, transform_le⟩
  have minCoding_le : blocks.log2MinCodingMinus3 ≤ 3 := by omega
  have codingRange_le : blocks.log2CodingRange ≤ 3 - blocks.log2MinCodingMinus3 := by omega
  have minTransform_le : blocks.log2MinTransformMinus2 ≤ 3 := by omega
  have transformRange_le : blocks.log2TransformRange ≤ 3 - blocks.log2MinTransformMinus2 := by
    omega
  intro start stop
  refine ReadsBack.bind (.boundedUnsigned minCoding_le) fun mid => ?_
  refine ReadsBack.bind (.boundedUnsigned codingRange_le) fun mid => ?_
  refine ReadsBack.bind (.boundedUnsigned minTransform_le) fun mid => ?_
  refine ReadsBack.bind (.boundedUnsigned transformRange_le) fun mid => ?_
  refine ReadsBack.bind (.unsigned blocks.maxTransformDepthInter) fun mid => ?_
  exact ReadsBack.bind_last (.unsigned blocks.maxTransformDepthIntra) (.done blocks)

theorem Scaling.decodes_coding {scaling : Scaling} (consistent : scaling.Consistent) :
    Decodes Scaling.decoder scaling.coding scaling := by
  intro start stop
  cases scaling with
  | flat => exact ReadsBack.bind_last (.flag false) (.done _)
  | standard =>
      refine ReadsBack.bind (.flag true) fun mid => ?_
      exact ReadsBack.bind_last (.flag false) (.done _)
  | coded lists =>
      refine ReadsBack.bind (.flag true) fun mid => ?_
      refine ReadsBack.bind (.flag true) fun mid => ?_
      exact ReadsBack.bind_last (ScalingLists.Explicit.decodes_coding consistent) (.done _)

theorem PcmBlocks.decodes_coding (pcm : PcmBlocks) :
    Decodes PcmBlocks.decoder pcm.coding pcm := by
  intro start stop
  refine ReadsBack.bind (.bits pcm.lumaDepthMinus1 4) fun mid => ?_
  refine ReadsBack.bind (.bits pcm.chromaDepthMinus1 4) fun mid => ?_
  refine ReadsBack.bind (.unsigned pcm.log2MinSizeMinus3) fun mid => ?_
  refine ReadsBack.bind (.unsigned pcm.log2SizeRange) fun mid => ?_
  exact ReadsBack.bind_last (.flag pcm.loopFilterDisabled) (.done pcm)

/-- Explicit sets are decoded behind the others. -/
theorem ShortTermSet.decodes_sequence {sets : List ShortTermSet}
    (explicit : ∀ set ∈ sets, set.Explicit) (total index : Nat) (others : List ShortTermSet) :
    Decodes
      (Decoder.foldFrom (fun index sets => do return sets ++ [← decoder sets index total])
        sets.length index others)
      ((sets.zipIdx index).flatMap fun (set, index) => set.coding (index == 0))
      (others ++ sets) := by
  induction sets generalizing index others with
  | nil =>
      rw [List.append_nil]
      exact .done others
  | cons set sets inductionHypothesis =>
      rw [List.forall_mem_cons] at explicit
      have following := inductionHypothesis explicit.2 (index + 1) (others ++ [set])
      rw [List.append_assoc] at following
      intro start stop
      rw [List.length_cons, Decoder.foldFrom, Decoder.monadBind_eq, Decoder.bind_assoc]
      refine ReadsBack.bind (explicit.1.decodes_coding others index total) fun mid => ?_
      exact following mid stop

/-! ## Whole sets -/

namespace SequenceParameterSet

/-- The set can be written: its values lie in the ranges that a reader asks for, each field that is
coded has the width or the range of its form, the parts are consistent, and what is not coded has
the value that a reader assumes. -/
structure Consistent (set : SequenceParameterSet) : Prop where
  exact : ∀ field ∈ set.coding, field.Exact
  profileTierLevel : set.profileTierLevel.ConsistentWith true set.maxSubLayersMinus1
  id_le : set.id ≤ 15
  chroma_le : set.chroma ≤ 3
  separatePlanes : set.chroma ≠ 3 → set.separatePlanes = false
  lumaDepthMinus8_le : set.lumaDepthMinus8 ≤ 8
  chromaDepthMinus8_le : set.chromaDepthMinus8 ≤ 8
  log2MaxPictureOrderMinus4_le : set.log2MaxPictureOrderMinus4 ≤ 12
  ordering :
    SubLayerOrdering.ListConsistent set.orderingOfEach set.maxSubLayersMinus1 set.ordering
  blocks : set.blocks.Consistent
  scaling : set.scaling.Consistent
  shortTermSets_length : set.shortTermSets.length ≤ 64
  shortTermSets : ∀ shortTermSet ∈ set.shortTermSets, shortTermSet.Explicit
  longTermCandidates_length : ∀ candidates ∈ set.longTermCandidates, candidates.length ≤ 32
  usability : ∀ usability ∈ set.usability, usability.ConsistentWith set.maxSubLayersMinus1

/-- Whatever flags are set, they are the last fields. -/
theorem Consistent.withExtensions {set : SequenceParameterSet} (consistent : set.Consistent)
    {extensions : ExtensionFlags} (exact : ∀ field ∈ extensions.coding, field.Exact) :
    ({ set with extensions } : SequenceParameterSet).Consistent := by
  have fieldsExact := (List.forall_mem_append.mp consistent.exact).1
  exact { consistent with exact := List.forall_mem_append.mpr ⟨fieldsExact, exact⟩ }

theorem decodes_longTerm {candidates : List LongTermCandidate} (length_le : candidates.length ≤ 32)
    (width : Nat) :
    Decodes (longTermDecoder width) (longTermCoding width candidates) candidates := by
  intro start stop
  refine ReadsBack.bind (.boundedUnsigned length_le) fun mid => ?_
  exact Decodes.replicate rfl (fun candidate _ => candidate.decodes_coding width) mid stop

theorem decodes_coding {set : SequenceParameterSet} (consistent : set.Consistent) :
    Decodes fields set.coding set := by
  -- The equation of `coding` takes far longer to derive than its definition to unfold.
  delta coding
  simp only [SubLayerOrdering.listCoding, ShortTermSet.sequenceCoding, List.append_assoc,
    List.cons_append, List.nil_append]
  intro start stop
  refine ReadsBack.bind (.bits set.videoSetId 4) fun mid => ?_
  refine ReadsBack.bind (.bits set.maxSubLayersMinus1 3) fun mid => ?_
  refine ReadsBack.bind (.flag set.temporalIdNesting) fun mid => ?_
  refine ReadsBack.bind (ProfileTierLevel.decodes_coding consistent.profileTierLevel)
    fun mid => ?_
  refine ReadsBack.bind (.boundedUnsigned consistent.id_le) fun mid => ?_
  refine ReadsBack.bind (.boundedUnsigned consistent.chroma_le) fun mid => ?_
  refine ReadsBack.bind (.whenElse (.flag set.separatePlanes) fun notCoded =>
    consistent.separatePlanes (beq_eq_false_iff_ne.mp notCoded)) fun mid => ?_
  refine ReadsBack.bind (.unsigned set.codedWidth) fun mid => ?_
  refine ReadsBack.bind (.unsigned set.codedHeight) fun mid => ?_
  refine ReadsBack.optionalBehindFlag_bind (fun window _ => window.decodes_coding) fun mid => ?_
  refine ReadsBack.bind (.boundedUnsigned consistent.lumaDepthMinus8_le) fun mid => ?_
  refine ReadsBack.bind (.boundedUnsigned consistent.chromaDepthMinus8_le) fun mid => ?_
  refine ReadsBack.bind (.boundedUnsigned consistent.log2MaxPictureOrderMinus4_le) fun mid => ?_
  refine ReadsBack.bind (.flag set.orderingOfEach) fun mid => ?_
  refine ReadsBack.bind consistent.ordering.decodes fun mid => ?_
  refine ReadsBack.bind (BlockSizes.decodes_coding consistent.blocks) fun mid => ?_
  refine ReadsBack.bind (Scaling.decodes_coding consistent.scaling) fun mid => ?_
  refine ReadsBack.bind (.flag set.asymmetricPartitions) fun mid => ?_
  refine ReadsBack.bind (.flag set.sampleAdaptiveOffset) fun mid => ?_
  refine ReadsBack.optionalBehindFlag_bind (fun pcm _ => pcm.decodes_coding) fun mid => ?_
  refine ReadsBack.bind (.boundedUnsigned consistent.shortTermSets_length) fun mid => ?_
  refine ReadsBack.bind (ShortTermSet.decodes_sequence consistent.shortTermSets _ 0 [])
    fun mid => ?_
  refine ReadsBack.optionalBehindFlag_bind (fun candidates isThere =>
    decodes_longTerm (consistent.longTermCandidates_length candidates isThere) _) fun mid => ?_
  refine ReadsBack.bind (.flag set.temporalMotionPrediction) fun mid => ?_
  refine ReadsBack.bind (.flag set.strongIntraSmoothing) fun mid => ?_
  refine ReadsBack.optionalBehindFlag_bind (fun usability isThere =>
    VideoUsability.decodes_coding (consistent.usability usability isThere)) fun mid => ?_
  exact ReadsBack.bind_last set.extensions.decodes_coding (.done set)

/-- The header of a unit that holds a sequence parameter set. -/
abbrev headerOf (layerId temporalIdPlus1 : Nat) : NalHeader :=
  { unitType := .sps, layerId, temporalIdPlus1 }

theorem exact_headerOf {layerId temporalIdPlus1 : Nat} (layerId_lt : layerId < 64)
    (temporalIdPlus1_lt : temporalIdPlus1 < 8) :
    ∀ field ∈ (headerOf layerId temporalIdPlus1).coding, field.Exact := by
  have code_lt : NalUnitType.sps.code < 64 := by decide
  exact NalHeader.exact_coding code_lt layerId_lt temporalIdPlus1_lt

/-- A consistent set is written to a unit. Where none of its extension flags is set, trailing bits
follow and the unit is decoded to that set. Where one is, the set is all that is decoded, whatever
data follows, and it is reported that extensions are not supported. -/
theorem ofUnit_written_sequence {set : SequenceParameterSet} (consistent : set.Consistent)
    {layerId temporalIdPlus1 : Nat} (layerId_lt : layerId < 64)
    (temporalIdPlus1_ne : temporalIdPlus1 ≠ 0) (temporalIdPlus1_lt : temporalIdPlus1 < 8)
    (extension : List Bool) :
    ∃ unit, set.toUnit layerId temporalIdPlus1 extension = .ok unit ∧
      ofUnit unit =
        if set.extensions.any then .error (.stopped set (.unsupported "SPS" "SPS extensions"))
        else .ok set := by
  have reads : Decodes (setDecoder .sps structureName fields)
      ((headerOf layerId temporalIdPlus1).coding ++ set.coding) set :=
    decodes_setDecoder rfl temporalIdPlus1_ne (decodes_coding consistent)
  have exact : ∀ field ∈ (headerOf layerId temporalIdPlus1).coding ++ set.coding, field.Exact :=
    List.forall_mem_append.mpr
      ⟨exact_headerOf layerId_lt temporalIdPlus1_lt, consistent.exact⟩
  have written := decodeUnitPartly_written reads exact structureName "SPS extensions"
    (·.extensions.any) extension
  rw [← decoder_eq] at written
  exact written

/-! ### A set with all parts -/

/-- A list at a place, with a coefficient of the constant part where it asks for one. -/
def sampleList (place : Nat × Nat) : ScalingList where
  sizeId := place.1
  matrixId := place.2
  isExplicit := true
  coefficients := List.replicate (ScalingList.coefficientCount place.1) 200
  constantCoefficient := if 1 < place.1 then some 255 else none

/-- A buffer model for three sub-layers, each of which fixes its rate in another way. -/
def sampleBufferModel : BufferModel where
  shared := {
    nalPresent := true
    vclPresent := false
    unitRemoval := some {
      tickDivisorMinus2 := 98
      delayIncrementLengthMinus1 := 15
      inTimingMessages := true
      outputDelayLengthMinus1 := 7
      bufferSizeScale := 3 }
    bitRateScale := 4
    bufferSizeScale := 6 }
  subLayers := [
    { fixedRateInGeneral := true
      fixedRateInSequence := true
      elementalDurationMinus1 := 1
      lowDelay := false
      scheduleCountMinus1 := 1
      nal := [
        { bitRateMinus1 := 999, bufferSizeMinus1 := 1999, unitBufferSizeMinus1 := 99
          unitBitRateMinus1 := 49, constantBitRate := false },
        { bitRateMinus1 := 1999, bufferSizeMinus1 := 3999, constantBitRate := true }]
      vcl := [] },
    { fixedRateInGeneral := false
      fixedRateInSequence := true
      elementalDurationMinus1 := 0
      lowDelay := false
      scheduleCountMinus1 := 0
      nal := [{ bitRateMinus1 := 0, bufferSizeMinus1 := 0, constantBitRate := false }]
      vcl := [] },
    { fixedRateInGeneral := false
      fixedRateInSequence := false
      elementalDurationMinus1 := 0
      lowDelay := true
      scheduleCountMinus1 := 0
      nal := [{ bitRateMinus1 := 7, bufferSizeMinus1 := 7, constantBitRate := true }]
      vcl := [] }]

/-- A set in which every optional part is there. -/
def fullSample : SequenceParameterSet where
  videoSetId := 1
  maxSubLayersMinus1 := 2
  temporalIdNesting := true
  profileTierLevel := {
    profileBlock := some {
      space := 0
      tierFlag := true
      idc := 4
      compatibility := 0x08000000
      constraints := 0x9e0000000000 }
    levelIdc := 123
    subLayers := [
      { profile := some { space := 0, tierFlag := false, idc := 4, compatibility := 0x08000000 }
        levelIdc := none },
      { profile := none, levelIdc := some 93 }] }
  id := 15
  chroma := 3
  separatePlanes := true
  codedWidth := 1920
  codedHeight := 1088
  conformanceWindow := some { left := 0, right := 0, top := 0, bottom := 8 }
  lumaDepthMinus8 := 2
  chromaDepthMinus8 := 8
  log2MaxPictureOrderMinus4 := 4
  orderingOfEach := false
  ordering := List.replicate 3
    { maxStoredPicturesMinus1 := 4, maxReorderedPictures := 2, maxLatencyIncreasePlus1 := 0 }
  blocks := {
    log2MinCodingMinus3 := 0
    log2CodingRange := 3
    log2MinTransformMinus2 := 0
    log2TransformRange := 3
    maxTransformDepthInter := 2
    maxTransformDepthIntra := 2 }
  scaling := .coded { lists := ScalingList.places.map sampleList }
  asymmetricPartitions := true
  sampleAdaptiveOffset := true
  pcm := some {
    lumaDepthMinus1 := 7
    chromaDepthMinus1 := 7
    log2MinSizeMinus3 := 0
    log2SizeRange := 2
    loopFilterDisabled := true }
  shortTermSets := [
    { prediction := none
      before := [{ delta := -1, used := true }, { delta := -32769, used := false }]
      after := [{ delta := 2, used := true }] },
    { prediction := none, before := [], after := [] }]
  longTermCandidates := some [{ lowBits := 255, used := true }]
  temporalMotionPrediction := true
  strongIntraSmoothing := true
  usability := some {
    signal := {
      aspectRatio := some { index := 1, ratio := { width := 1, height := 1 } }
      overscan := some true
      signalType := some { format := 5, fullRange := true, colour := none }
      chromaLocation := none }
    neutralChroma := false
    fieldSequence := true
    frameFieldInfoPresent := true
    displayWindow := some { left := 1, right := 2, top := 3, bottom := 4 }
    timing := some { unitsInTick := 1001, timeScale := 60000, ticksPerPictureMinus1 := some 0 }
    bufferModel := some sampleBufferModel
    restriction := some {
      tilesFixed := true
      motionVectorsOverBoundaries := true
      restrictedReferenceLists := false
      minSpatialSegmentation := 0
      maxBytesPerPictureDenominator := 2
      maxBitsPerCodingUnitDenominator := 1
      log2MaxHorizontalVectorLength := 15
      log2MaxVerticalVectorLength := 15 } }
  extensions := {}

theorem explicit_sampleList (place : Nat × Nat) : (sampleList place).Explicit where
  isExplicit := rfl
  coefficients_length := List.length_replicate
  coefficients coefficient isThere := by
    rw [List.eq_of_mem_replicate isThere]
    decide
  hasConstant := by
    by_cases isGreat : 1 < place.1 <;> simp [sampleList, isGreat]
  constant coefficient isThere := by
    by_cases isGreat : 1 < place.1
    · simp only [sampleList, if_pos isGreat] at isThere
      cases isThere
      decide
    · simp only [sampleList, if_neg isGreat] at isThere
      cases isThere

theorem consistent_sampleBufferModel : sampleBufferModel.ConsistentWith true 2 where
  shared noneThere := by cases noneThere
  notShared noneThere := by cases noneThere
  subLayers_length := rfl
  subLayers := by
    have schedules (list : List BufferSchedule) :
        ∀ schedule ∈ list, schedule.ConsistentWith true := by
      intro schedule _ noRemoval
      cases noRemoval
    simp only [sampleBufferModel, List.forall_mem_cons]
    refine ⟨?_, ?_, ?_, List.forall_mem_nil _⟩
    all_goals
      refine ⟨by decide, by decide, by decide, by decide, by decide, ?_, ?_⟩
      · exact ⟨by decide, by decide, schedules _⟩
      · exact ⟨by decide, by decide, schedules _⟩

theorem consistent_fullSample : fullSample.Consistent where
  exact := by decide +kernel
  profileTierLevel := ⟨rfl, rfl⟩
  id_le := by decide
  chroma_le := by decide
  separatePlanes notCoded := absurd rfl notCoded
  lumaDepthMinus8_le := by decide
  chromaDepthMinus8_le := by decide
  log2MaxPictureOrderMinus4_le := by decide
  ordering := ⟨rfl, by decide⟩
  blocks := ⟨by decide, by decide⟩
  scaling := by
    refine ⟨by decide, ?_⟩
    rw [List.forall_mem_map]
    exact fun place _ => explicit_sampleList place
  shortTermSets_length := by decide
  shortTermSets := by
    simp only [fullSample, List.forall_mem_cons]
    refine ⟨⟨rfl, by decide, ?_, ?_⟩, ⟨rfl, by decide, trivial, trivial⟩, List.forall_mem_nil _⟩
    · exact ⟨⟨0, by decide, by decide⟩, ⟨32767, by decide, by decide⟩, trivial⟩
    · exact ⟨⟨1, by decide, by decide⟩, trivial⟩
  longTermCandidates_length := by
    rintro candidates ⟨⟩
    decide
  usability := by
    rintro usability ⟨⟩
    refine ⟨?_, by decide, ?_⟩
    · rintro aspect ⟨⟩ _
      rfl
    · rintro model ⟨⟩
      exact consistent_sampleBufferModel

/-- The sample with two kinds of extensions. -/
def extendedSample : SequenceParameterSet :=
  { fullSample with extensions := { range := true, others := 1 } }

/-- The sample is written and decoded, and so is all of the extended one but its extensions. -/
theorem ofUnit_written_sequence_samples :
    (∃ unit, fullSample.toUnit 0 1 [] = .ok unit ∧ ofUnit unit = .ok fullSample) ∧
      ∃ unit, extendedSample.toUnit 63 7 [true, false, true] = .ok unit ∧
        ofUnit unit = .error (.stopped extendedSample (.unsupported "SPS" "SPS extensions")) := by
  constructor
  · exact ofUnit_written_sequence consistent_fullSample (by decide) (by decide) (by decide) []
  · have consistent : extendedSample.Consistent :=
      consistent_fullSample.withExtensions (by decide)
    exact ofUnit_written_sequence consistent (by decide) (by decide) (by decide)
      [true, false, true]

end SequenceParameterSet

end CodedVideo.Hevc
