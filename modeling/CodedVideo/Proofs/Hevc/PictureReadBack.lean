import CodedVideo.Proofs.Hevc.SequenceReadBack

/-!
# Reading HEVC picture parameter sets back

A set is consistent if its values lie in the ranges that a reader asks for, each field that it codes
has the width or the range of its form, lists have the lengths that are coded or known, and what is
not coded has the value that a reader assumes. Such a set, written field by field, is decoded to
itself, its range extension included. Behind the flags of any other extension, whatever data follows,
the set is all that is decoded.

Main statement: `PictureParameterSet.ofUnit_written_upToExtensions`.
-/

namespace CodedVideo.Hevc

open CodedField (flagged onlyIf present)
open Decoder (Decodes ReadsBack)

/-! ## Tiles and block edges -/

/-- The grid is not too large, and sizes that differ are those of all columns and rows but the last
ones. -/
structure TileGrid.Consistent (grid : TileGrid) : Prop where
  columnsMinus1_lt : grid.columnsMinus1 < maxTiles
  rowsMinus1_lt : grid.rowsMinus1 < maxTiles
  columnWidths_length : ∀ sizes ∈ grid.sizes,
    sizes.columnWidthsMinus1.length = grid.columnsMinus1
  rowHeights_length : ∀ sizes ∈ grid.sizes, sizes.rowHeightsMinus1.length = grid.rowsMinus1

/-- With the filter off there are no offsets. -/
def DeblockingControl.Consistent (deblocking : DeblockingControl) : Prop :=
  deblocking.disabled = true → deblocking.betaOffsetDiv2 = 0 ∧ deblocking.tcOffsetDiv2 = 0

theorem TileSizes.decodes_coding (sizes : TileSizes) :
    Decodes (decoder sizes.columnWidthsMinus1.length sizes.rowHeightsMinus1.length) sizes.coding
      sizes := by
  intro start stop
  refine ReadsBack.bind (.replicate_map rfl .unsigned) fun mid => ?_
  exact ReadsBack.bind_last (.replicate_map rfl .unsigned) (.done sizes)

theorem TileGrid.decodes_coding {grid : TileGrid} (consistent : grid.Consistent) :
    Decodes decoder grid.coding grid := by
  have inRange : decide (grid.columnsMinus1 < maxTiles) && decide (grid.rowsMinus1 < maxTiles) := by
    rw [Bool.and_eq_true, decide_eq_true_iff, decide_eq_true_iff]
    exact ⟨consistent.columnsMinus1_lt, consistent.rowsMinus1_lt⟩
  have sizesRead (sizes : TileSizes) (isThere : sizes ∈ grid.sizes) :
      Decodes (TileSizes.decoder grid.columnsMinus1 grid.rowsMinus1) sizes.coding sizes := by
    rw [← consistent.columnWidths_length sizes isThere,
      ← consistent.rowHeights_length sizes isThere]
    exact sizes.decodes_coding
  have isThere_eq : grid.sizes.isSome = !grid.sizes.isNone := (Option.not_isNone _).symm
  simp only [coding, List.cons_append, List.nil_append]
  intro start stop
  refine ReadsBack.bind (.unsigned grid.columnsMinus1) fun mid => ?_
  refine ReadsBack.bind (.unsigned grid.rowsMinus1) fun mid => ?_
  refine ReadsBack.bind_first (.require inRange) ?_
  refine ReadsBack.bind (.flag grid.sizes.isNone) fun mid => ?_
  refine ReadsBack.bind (.optional isThere_eq sizesRead) fun mid => ?_
  exact ReadsBack.bind_last (.flag grid.loopFilterAcross) (.done grid)

theorem DeblockingControl.decodes_coding {deblocking : DeblockingControl}
    (consistent : deblocking.Consistent) : Decodes decoder deblocking.coding deblocking := by
  have noOffsets (notCoded : (!deblocking.disabled) = false) :=
    consistent (Bool.not_eq_eq_eq_not.mp notCoded)
  rw [coding, CodedField.onlyIf_cons]
  simp only [List.cons_append, List.nil_append]
  intro start stop
  refine ReadsBack.bind (.flag deblocking.overrideEnabled) fun mid => ?_
  refine ReadsBack.bind (.flag deblocking.disabled) fun mid => ?_
  refine ReadsBack.bind (.whenElse (.signed deblocking.betaOffsetDiv2) fun notCoded =>
    (noOffsets notCoded).1) fun mid => ?_
  exact ReadsBack.bind_last (.whenElse (.signed deblocking.tcOffsetDiv2) fun notCoded =>
    (noOffsets notCoded).2) (.done deblocking)

/-! ## The range extension -/

/-- There are one to six pairs of offsets. -/
structure ChromaOffsetLists.Consistent (lists : ChromaOffsetLists) : Prop where
  offsets_ne_nil : lists.offsets ≠ []
  length_le : lists.offsets.length ≤ 6

/-- Transforms that are skipped have a greatest size only where they can be skipped. -/
structure PictureRangeExtension.ConsistentWith (extension : PictureRangeExtension)
    (transformSkip : Bool) : Prop where
  log2MaxTransformSkipMinus2 :
    transformSkip = false → extension.log2MaxTransformSkipMinus2 = 0
  chromaOffsetLists : ∀ lists ∈ extension.chromaOffsetLists, lists.Consistent

theorem ChromaOffsetLists.decodes_coding {lists : ChromaOffsetLists}
    (consistent : lists.Consistent) : Decodes decoder lists.coding lists := by
  have length_eq : lists.offsets.length = lists.offsets.length - 1 + 1 :=
    (Nat.sub_one_add_one (mt List.eq_nil_of_length_eq_zero consistent.offsets_ne_nil)).symm
  have lengthMinus1_le : lists.offsets.length - 1 ≤ 5 := Nat.sub_le_of_le_add consistent.length_le
  have pairRead (offsets : Int × Int) :
      Decodes (do
          let cb ← Decoder.signed
          let cr ← Decoder.signed
          return (cb, cr))
        [.signed offsets.1, .signed offsets.2] offsets := by
    intro start stop
    refine ReadsBack.bind (.signed offsets.1) fun mid => ?_
    exact ReadsBack.bind_last (.signed offsets.2) (.done offsets)
  simp only [coding, List.cons_append, List.nil_append]
  intro start stop
  refine ReadsBack.bind (.unsigned lists.depth) fun mid => ?_
  refine ReadsBack.bind (.boundedUnsigned lengthMinus1_le) fun mid => ?_
  exact ReadsBack.bind_last (.replicate length_eq fun offsets _ => pairRead offsets) (.done lists)

theorem PictureRangeExtension.decodes_coding {extension : PictureRangeExtension}
    {transformSkip : Bool} (consistent : extension.ConsistentWith transformSkip) :
    Decodes (decoder transformSkip) (extension.coding transformSkip) extension := by
  simp only [coding, List.append_assoc, List.cons_append, List.nil_append]
  intro start stop
  refine ReadsBack.bind (.whenElse (.unsigned extension.log2MaxTransformSkipMinus2)
    consistent.log2MaxTransformSkipMinus2) fun mid => ?_
  refine ReadsBack.bind (.flag extension.crossComponentPrediction) fun mid => ?_
  refine ReadsBack.optionalBehindFlag_bind (fun lists isThere =>
    ChromaOffsetLists.decodes_coding (consistent.chromaOffsetLists lists isThere)) fun mid => ?_
  refine ReadsBack.bind (.unsigned extension.log2LumaOffsetScale) fun mid => ?_
  exact ReadsBack.bind_last (.unsigned extension.log2ChromaOffsetScale) (.done extension)

/-! ## Whole sets -/

namespace PictureParameterSet

/-- The set can be written: its values lie in the ranges that a reader asks for, each field that is
coded has the width or the range of its form, the parts are consistent, and the range extension is
there where its flag says so. -/
structure Consistent (set : PictureParameterSet) : Prop where
  exact : ∀ field ∈ set.coding, field.Exact
  id_le : set.id ≤ 63
  sequenceId_le : set.sequenceId ≤ 15
  defaultActiveList0Minus1_le : set.defaultActiveList0Minus1 ≤ 14
  defaultActiveList1Minus1_le : set.defaultActiveList1Minus1 ≤ 14
  qpDeltaDepth_le : ∀ depth ∈ set.qpDeltaDepth, depth ≤ 3
  tiles : ∀ grid ∈ set.tiles, grid.Consistent
  deblocking : ∀ deblocking ∈ set.deblocking, deblocking.Consistent
  scalingLists : ∀ lists ∈ set.scalingLists, lists.Explicit
  log2MergeLevelMinus2_le : set.log2MergeLevelMinus2 ≤ 4
  hasRangeExtension : set.rangeExtension.isSome = set.extensions.range
  rangeExtension : ∀ extension ∈ set.rangeExtension, extension.ConsistentWith set.transformSkip

theorem decodes_coding {set : PictureParameterSet} (consistent : set.Consistent) :
    Decodes fields set.coding set := by
  -- The equation of `coding` takes far longer to derive than its definition to unfold.
  delta coding
  simp only [List.append_assoc, List.cons_append, List.nil_append]
  intro start stop
  refine ReadsBack.bind (.boundedUnsigned consistent.id_le) fun mid => ?_
  refine ReadsBack.bind (.boundedUnsigned consistent.sequenceId_le) fun mid => ?_
  refine ReadsBack.bind (.flag set.dependentSegments) fun mid => ?_
  refine ReadsBack.bind (.flag set.outputFlagPresent) fun mid => ?_
  refine ReadsBack.bind (.bits set.reservedFlagCount 3) fun mid => ?_
  refine ReadsBack.bind (.flag set.signDataHiding) fun mid => ?_
  refine ReadsBack.bind (.flag set.arithmeticInitPresent) fun mid => ?_
  refine ReadsBack.bind (.boundedUnsigned consistent.defaultActiveList0Minus1_le) fun mid => ?_
  refine ReadsBack.bind (.boundedUnsigned consistent.defaultActiveList1Minus1_le) fun mid => ?_
  refine ReadsBack.bind (.signed set.initialQpMinus26) fun mid => ?_
  refine ReadsBack.bind (.flag set.constrainedIntraPrediction) fun mid => ?_
  refine ReadsBack.bind (.flag set.transformSkip) fun mid => ?_
  refine ReadsBack.optionalBehindFlag_bind (fun depth isThere =>
    .boundedUnsigned (consistent.qpDeltaDepth_le depth isThere)) fun mid => ?_
  refine ReadsBack.bind (.signed set.cbQpOffset) fun mid => ?_
  refine ReadsBack.bind (.signed set.crQpOffset) fun mid => ?_
  refine ReadsBack.bind (.flag set.sliceChromaOffsetsPresent) fun mid => ?_
  refine ReadsBack.bind (.flag set.weightedPrediction) fun mid => ?_
  refine ReadsBack.bind (.flag set.weightedBiprediction) fun mid => ?_
  refine ReadsBack.bind (.flag set.transquantBypass) fun mid => ?_
  refine ReadsBack.bind (.flag set.tiles.isSome) fun mid => ?_
  refine ReadsBack.bind (.flag set.entropySynchronisation) fun mid => ?_
  refine ReadsBack.bind (.optional rfl fun grid isThere =>
    TileGrid.decodes_coding (consistent.tiles grid isThere)) fun mid => ?_
  refine ReadsBack.bind (.flag set.loopFilterAcrossSlices) fun mid => ?_
  refine ReadsBack.optionalBehindFlag_bind (fun deblocking isThere =>
    DeblockingControl.decodes_coding (consistent.deblocking deblocking isThere)) fun mid => ?_
  refine ReadsBack.optionalBehindFlag_bind (fun lists isThere =>
    ScalingLists.Explicit.decodes_coding (consistent.scalingLists lists isThere)) fun mid => ?_
  refine ReadsBack.bind (.flag set.listModificationPresent) fun mid => ?_
  refine ReadsBack.bind (.boundedUnsigned consistent.log2MergeLevelMinus2_le) fun mid => ?_
  refine ReadsBack.bind (.flag set.headerExtensionPresent) fun mid => ?_
  refine ReadsBack.bind set.extensions.decodes_coding fun mid => ?_
  exact ReadsBack.bind_last (.optional consistent.hasRangeExtension fun extension isThere =>
    PictureRangeExtension.decodes_coding (consistent.rangeExtension extension isThere)) (.done set)

/-- Other extension flags can be written, as long as the range extension stays what it is. -/
theorem Consistent.withExtensions {set : PictureParameterSet} (consistent : set.Consistent)
    {extensions : ExtensionFlags} (exact : ∀ field ∈ extensions.coding, field.Exact)
    (range_eq : extensions.range = set.extensions.range) :
    ({ set with extensions } : PictureParameterSet).Consistent := by
  have fieldsExact := consistent.exact
  rw [coding, List.forall_mem_append, List.forall_mem_append] at fieldsExact
  obtain ⟨⟨frontExact, _⟩, rangeExact⟩ := fieldsExact
  exact { consistent with
    exact := List.forall_mem_append.mpr ⟨List.forall_mem_append.mpr ⟨frontExact, exact⟩, rangeExact⟩
    hasRangeExtension := consistent.hasRangeExtension.trans range_eq.symm }

/-- A consistent set is written to a unit. Where no extension flag is set but that of the range
extension, trailing bits follow and the unit is decoded to that set. Where another one is, the set
with its range extension is all that is decoded, whatever data follows, and it is reported that
extensions are not supported. -/
theorem ofUnit_written_upToExtensions {set : PictureParameterSet} (consistent : set.Consistent)
    {layerId temporalIdPlus1 : Nat} (layerId_lt : layerId < 64)
    (temporalIdPlus1_ne : temporalIdPlus1 ≠ 0) (temporalIdPlus1_lt : temporalIdPlus1 < 8)
    (extension : List Bool) :
    ∃ unit, set.toUnit layerId temporalIdPlus1 extension = .ok unit ∧
      ofUnit unit =
        if set.extensions.beyondRange then
          .error (.stopped set (.unsupported "PPS" "PPS extensions"))
        else .ok set := by
  have code_lt : NalUnitType.pps.code < 64 := by decide
  have written := decodeUnitPartly_written_set rfl code_lt layerId_lt temporalIdPlus1_ne
    temporalIdPlus1_lt (decodes_coding consistent) consistent.exact structureName "PPS extensions"
    (·.extensions.beyondRange) extension
  rw [← decoder_eq] at written
  exact written

/-! ### A set with all parts -/

/-- A set in which every optional part is there, the range extension included. -/
def fullSample : PictureParameterSet where
  id := 63
  sequenceId := 15
  dependentSegments := true
  outputFlagPresent := true
  reservedFlagCount := 7
  signDataHiding := true
  arithmeticInitPresent := true
  defaultActiveList0Minus1 := 14
  defaultActiveList1Minus1 := 3
  initialQpMinus26 := -30
  constrainedIntraPrediction := true
  transformSkip := true
  qpDeltaDepth := some 3
  cbQpOffset := -12
  crQpOffset := 12
  sliceChromaOffsetsPresent := true
  weightedPrediction := true
  weightedBiprediction := true
  transquantBypass := true
  entropySynchronisation := true
  tiles := some {
    columnsMinus1 := 2
    rowsMinus1 := 1
    sizes := some { columnWidthsMinus1 := [4, 0], rowHeightsMinus1 := [7] }
    loopFilterAcross := true }
  loopFilterAcrossSlices := true
  deblocking := some {
    overrideEnabled := true
    disabled := false
    betaOffsetDiv2 := 6
    tcOffsetDiv2 := -6 }
  scalingLists := some { lists := ScalingList.places.map SequenceParameterSet.sampleList }
  listModificationPresent := true
  log2MergeLevelMinus2 := 4
  headerExtensionPresent := true
  extensions := { range := true }
  rangeExtension := some {
    log2MaxTransformSkipMinus2 := 3
    crossComponentPrediction := true
    chromaOffsetLists := some {
      depth := 1
      offsets := [(1, -1), (2, -2), (3, -3), (4, -4), (5, -5), (6, -6)] }
    log2LumaOffsetScale := 1
    log2ChromaOffsetScale := 2 }

theorem consistent_fullSample : fullSample.Consistent where
  exact := by decide +kernel
  id_le := by decide
  sequenceId_le := by decide
  defaultActiveList0Minus1_le := by decide
  defaultActiveList1Minus1_le := by decide
  qpDeltaDepth_le := by decide
  tiles := by
    rintro grid ⟨⟩
    refine ⟨by decide, by decide, ?_, ?_⟩
    · rintro sizes ⟨⟩
      rfl
    · rintro sizes ⟨⟩
      rfl
  deblocking := by
    rintro deblocking ⟨⟩ isDisabled
    cases isDisabled
  scalingLists := by
    rintro lists ⟨⟩
    exact ⟨by decide, List.forall_mem_map.mpr fun place _ =>
      SequenceParameterSet.explicit_sampleList place⟩
  log2MergeLevelMinus2_le := by decide
  hasRangeExtension := rfl
  rangeExtension := by
    rintro extension ⟨⟩
    refine ⟨by decide, ?_⟩
    rintro lists ⟨⟩
    exact ⟨by decide, by decide⟩

/-- The sample with two further kinds of extensions. -/
def extendedSample : PictureParameterSet :=
  { fullSample with extensions := { range := true, screenContent := true, others := 9 } }

/-- The sample is written and decoded, and so is all of the extended one but its further
extensions. -/
theorem ofUnit_written_upToExtensions_samples :
    (∃ unit, fullSample.toUnit 0 1 [] = .ok unit ∧ ofUnit unit = .ok fullSample) ∧
      ∃ unit, extendedSample.toUnit 63 7 [false, true] = .ok unit ∧
        ofUnit unit = .error (.stopped extendedSample (.unsupported "PPS" "PPS extensions")) := by
  constructor
  · exact ofUnit_written_upToExtensions consistent_fullSample (by decide) (by decide) (by decide) []
  · have consistent : extendedSample.Consistent :=
      consistent_fullSample.withExtensions (by decide) rfl
    exact ofUnit_written_upToExtensions consistent (by decide) (by decide) (by decide) [false, true]

end PictureParameterSet

end CodedVideo.Hevc
