import CodedVideo.Proofs.Hevc.ReferencesReadBack
import CodedVideo.Proofs.Hevc.SliceData
import CodedVideo.Proofs.NalUnit.WrittenUnit
import CodedVideo.Proofs.UnitHeaders

/-!
# Reading HEVC slice segments back

A segment header is consistent with the parameter sets that it refers to if each field that they ask
for can be coded and everything else has the value that a reader assumes. Such a header, written
field by field up to the padding, is decoded to itself, whatever slice data follows, and the data
starts where the written header ends.

Main statement: `SliceSegment.ofUnit_written_segment`.
-/

namespace CodedVideo.Hevc

open CodedField (codeAll onlyIf present)
open Decoder (Decodes ReadsBack)

/-! ## Consistent headers -/

/-- Only where decoding can start is something said of prior pictures; only a later segment is
dependent, has an address and continues without reserved flags. -/
structure SegmentStart.ConsistentWith (start : SegmentStart) (unitType : NalUnitType)
    (pictureSet : PictureParameterSet) (sequenceSet : SequenceParameterSet) : Prop where
  noOutputOfPriorPictures : unitType.isIrap = false → start.noOutputOfPriorPictures = false
  dependent : (!start.isFirst && pictureSet.dependentSegments) = false → start.isDependent = false
  firstAddress : start.isFirst = true → start.address = 0
  address_lt : start.isFirst = false → start.address < sequenceSet.sizeInTreeBlocks
  reservedFlags : start.isDependent = true → start.reservedFlags = 0

/-- A slice has its own filtering only where that is allowed, and its own offsets only with the
filter on. -/
structure DeblockingFields.ConsistentWith (deblocking : DeblockingFields)
    (pictureSet : PictureParameterSet) : Prop where
  overridden : pictureSet.deblockingOverrideEnabled = false → deblocking.overridden = false
  notOverridden : deblocking.overridden = false → deblocking = inherited pictureSet
  betaOffsetDiv2 : deblocking.disabled = true →
    deblocking.betaOffsetDiv2 = (inherited pictureSet).betaOffsetDiv2
  tcOffsetDiv2 : deblocking.disabled = true →
    deblocking.tcOffsetDiv2 = (inherited pictureSet).tcOffsetDiv2

/-- The fields of a slice can be coded, and what it does not code is as a reader assumes. -/
structure SliceFields.ConsistentWith (fields : SliceFields) (unitType : NalUnitType)
    (pictureSet : PictureParameterSet) (sequenceSet : SequenceParameterSet)
    (sliceType : SliceType) : Prop where
  pictureOutput : pictureSet.outputFlagPresent = false → fields.pictureOutput = true
  colourPlane : sequenceSet.separatePlanes = false → fields.colourPlane = 0
  refreshed : unitType.isIdr = true → fields.kept = {}
  kept : unitType.isIdr = false → fields.kept.ConsistentWith sequenceSet
  lumaSampleOffset : sequenceSet.sampleAdaptiveOffset = false → fields.lumaSampleOffset = false
  chromaSampleOffset : (sequenceSet.sampleAdaptiveOffset && sequenceSet.codedChroma != 0) = false →
    fields.chromaSampleOffset = false
  noReferences : sliceType.isIntra = true → fields.inter = .inherited pictureSet
  inter : sliceType.isIntra = false →
    fields.inter.ConsistentWith pictureSet sequenceSet sliceType fields.kept
  cbQpOffset : pictureSet.sliceChromaOffsetsPresent = false → fields.cbQpOffset = 0
  crQpOffset : pictureSet.sliceChromaOffsetsPresent = false → fields.crQpOffset = 0
  chromaOffsetLists : pictureSet.hasChromaOffsetLists = false → fields.chromaOffsetLists = false
  deblocking : fields.deblocking.ConsistentWith pictureSet
  loopFilterAcrossSlices :
    (pictureSet.loopFilterAcrossSlices &&
      (fields.lumaSampleOffset || fields.chromaSampleOffset || !fields.deblocking.disabled)) =
        false →
      fields.loopFilterAcrossSlices = pictureSet.loopFilterAcrossSlices

/-- There are fewer entry points than coding tree blocks, and their distances have a width that can
be coded. -/
structure EntryPoints.ConsistentWith (points : EntryPoints) (size : Nat) : Prop where
  length_lt : points.offsetsMinus1.length < max size 1
  noOffsets : points.offsetsMinus1 = [] → points.offsetLengthMinus1 = 0
  offsetLengthMinus1_le : points.offsetLengthMinus1 ≤ 31

/-- The header can be written with the parameter sets: it opens a unit of the base layer that has a
slice header, each field that is coded has the width or the range of its form, lists have the
lengths of their counts, and what is not coded has the value that a reader assumes. -/
structure SliceHeader.ConsistentWith (header : SliceHeader) (pictureSet : PictureParameterSet)
    (sequenceSet : SequenceParameterSet) : Prop where
  hasSliceHeader : header.unit.unitType.hasSliceHeader = true
  typeOfCode : NalUnitType.ofCode header.unit.unitType.code = header.unit.unitType
  layerId : header.unit.layerId = 0
  temporalIdPlus1 : header.unit.temporalIdPlus1 ≠ 0
  exact : ∀ field ∈ header.unit.coding ++ header.coding pictureSet sequenceSet, field.Exact
  start : header.start.ConsistentWith header.unit.unitType pictureSet sequenceSet
  dependent : header.start.sliceType = none → header.fields = .inherited pictureSet
  fields : ∀ sliceType ∈ header.start.sliceType,
    header.fields.ConsistentWith header.unit.unitType pictureSet sequenceSet sliceType
  noEntryPoints : (pictureSet.tiles.isSome || pictureSet.entropySynchronisation) = false →
    header.entryPoints = {}
  entryPoints : header.entryPoints.ConsistentWith sequenceSet.sizeInTreeBlocks
  noExtensionData : pictureSet.headerExtensionPresent = false → header.extensionData = []
  extensionLength_le : header.extensionData.length ≤ 256

/-! ## The header of the unit -/

theorem SegmentStart.decodes_unitCoding {unit : NalHeader}
    (hasSliceHeader : unit.unitType.hasSliceHeader = true)
    (typeOfCode : NalUnitType.ofCode unit.unitType.code = unit.unitType)
    (layerId : unit.layerId = 0) (temporalIdPlus1 : unit.temporalIdPlus1 ≠ 0) :
    Decodes unitDecoder unit.coding unit := by
  intro start stop
  refine ReadsBack.bind_last (NalHeader.decodes_coding typeOfCode temporalIdPlus1) ?_
  refine ReadsBack.bind_first (.require hasSliceHeader) ?_
  refine ReadsBack.bind_first (.require (beq_iff_eq.mpr layerId)) ?_
  exact ReadsBack.done unit

/-! ## The start of a segment -/

namespace SegmentStart

variable {sequences : IdTable SequenceParameterSet} {pictures : IdTable PictureParameterSet}
  {pictureSet : PictureParameterSet} {sequenceSet : SequenceParameterSet}

theorem decodes_findPictureSet {id : Nat} (isThere : pictures.get? id = some pictureSet) :
    Decodes (findPictureSet pictures id) [] pictureSet := by
  rw [findPictureSet, isThere]
  exact .done pictureSet

theorem decodes_findSequenceSet {id : Nat} (isThere : sequences.get? id = some sequenceSet) :
    Decodes (findSequenceSet sequences id) [] sequenceSet := by
  rw [findSequenceSet, isThere]
  exact .done sequenceSet

theorem decodes_address {address size : Nat} (isInside : address < size) :
    Decodes (addressDecoder size) [.bits address (ceilLog2 size)] address := by
  intro start stop
  refine ReadsBack.bind_last (.bits address (ceilLog2 size)) ?_
  refine ReadsBack.bind_first (.require (decide_eq_true isInside)) ?_
  exact ReadsBack.done address

theorem decodes_type (sliceType : SliceType) :
    Decodes typeDecoder [.unsigned sliceType.code] sliceType := by
  intro start stop
  refine ReadsBack.bind_last (.unsigned sliceType.code) ?_
  cases sliceType <;> exact ReadsBack.done _

theorem decodes_coding {segmentStart : SegmentStart} {unit : NalHeader}
    (hasPictureSet : pictures.get? segmentStart.pictureSetId = some pictureSet)
    (hasSequenceSet : sequences.get? pictureSet.sequenceId = some sequenceSet)
    (consistent : segmentStart.ConsistentWith unit.unitType pictureSet sequenceSet) :
    Decodes (decoder sequences pictures unit)
      (segmentStart.coding unit.unitType pictureSet sequenceSet)
      { start := segmentStart, pictureSet, sequenceSet } := by
  simp only [coding, List.append_assoc]
  intro start stop
  refine ReadsBack.bind (.flag segmentStart.isFirst) fun mid => ?_
  refine ReadsBack.bind (.whenElse (.flag segmentStart.noOutputOfPriorPictures)
    consistent.noOutputOfPriorPictures) fun mid => ?_
  refine ReadsBack.bind (.unsigned segmentStart.pictureSetId) fun mid => ?_
  refine ReadsBack.bind_first (decodes_findPictureSet hasPictureSet) ?_
  refine ReadsBack.bind_first (decodes_findSequenceSet hasSequenceSet) ?_
  refine ReadsBack.bind (.whenElse (.flag segmentStart.isDependent) consistent.dependent)
    fun mid => ?_
  refine ReadsBack.bind (.whenElse_of (fun isLater =>
    decodes_address (consistent.address_lt (Bool.not_eq_eq_eq_not.mp isLater))) fun notCoded =>
      consistent.firstAddress (Bool.not_eq_eq_eq_not.mp notCoded)) fun mid => ?_
  -- The reserved flags and the slice type are coded together: a dependent segment has neither.
  rcases segmentStart with ⟨_, _, _, _, reservedFlags, _ | sliceType⟩
  · cases consistent.reservedFlags rfl
    refine ReadsBack.bind_first (.done 0) ?_
    refine ReadsBack.bind_first (.done none) ?_
    exact ReadsBack.done _
  · have typeReads : Decodes (Decoder.optional true typeDecoder)
        (present (fun sliceType : SliceType => [.unsigned sliceType.code]) (some sliceType))
        (some sliceType) :=
      .optional rfl fun sliceType _ => decodes_type sliceType
    refine ReadsBack.bind (.bits reservedFlags pictureSet.reservedFlagCount) fun mid => ?_
    exact ReadsBack.bind_last typeReads (.done _)

end SegmentStart

/-! ## Slices -/

theorem DeblockingFields.decodes_own {deblocking : DeblockingFields}
    {pictureSet : PictureParameterSet} (consistent : deblocking.ConsistentWith pictureSet)
    (isOwn : deblocking.overridden = true) :
    Decodes (ownDecoder (inherited pictureSet))
      (.flag deblocking.disabled ::
        onlyIf (!deblocking.disabled)
          [.signed deblocking.betaOffsetDiv2, .signed deblocking.tcOffsetDiv2])
      deblocking := by
  rw [CodedField.onlyIf_cons]
  intro start stop
  refine ReadsBack.bind (.flag deblocking.disabled) fun mid => ?_
  refine ReadsBack.bind (.whenElse (.signed deblocking.betaOffsetDiv2) fun isOff =>
    consistent.betaOffsetDiv2 (Bool.not_eq_eq_eq_not.mp isOff)) fun mid => ?_
  refine ReadsBack.bind_last (.whenElse (.signed deblocking.tcOffsetDiv2) fun isOff =>
    consistent.tcOffsetDiv2 (Bool.not_eq_eq_eq_not.mp isOff)) ?_
  rw [← isOwn]
  exact ReadsBack.done deblocking

theorem DeblockingFields.decodes_coding {deblocking : DeblockingFields}
    {pictureSet : PictureParameterSet} (consistent : deblocking.ConsistentWith pictureSet) :
    Decodes (decoder pictureSet) (deblocking.coding pictureSet) deblocking := by
  intro start stop
  refine ReadsBack.bind (.whenElse (.flag deblocking.overridden) consistent.overridden)
    fun mid => ?_
  exact Decodes.whenElse_of (decodes_own consistent) consistent.notOverridden mid stop

/-- The fields of a slice are decoded, and the pictures that can be referred to are counted. -/
theorem SliceFields.decodes_coding {fields : SliceFields} {unitType : NalUnitType}
    {referring : ReferringStart} {sliceType : SliceType}
    (consistent :
      fields.ConsistentWith unitType referring.pictureSet referring.sequenceSet sliceType) :
    Decodes (decoder unitType referring sliceType)
      (fields.coding unitType referring.pictureSet referring.sequenceSet sliceType)
      { fields with
        usedPictureCount := fields.kept.usedCount referring.sequenceSet.shortTermSets } := by
  simp only [coding, List.append_assoc]
  rw [CodedField.onlyIf_cons _ (.signed fields.cbQpOffset), List.append_assoc]
  intro start stop
  refine ReadsBack.bind (.whenElse (.flag fields.pictureOutput) consistent.pictureOutput)
    fun mid => ?_
  refine ReadsBack.bind (.whenElse (.bits fields.colourPlane 2) consistent.colourPlane)
    fun mid => ?_
  refine ReadsBack.bind (.whenElse_of (fun isKept => KeptPictures.decodes_coding
    (consistent.kept (Bool.not_eq_eq_eq_not.mp isKept))) fun isRefresh =>
      consistent.refreshed (Bool.not_eq_eq_eq_not.mp isRefresh)) fun mid => ?_
  refine ReadsBack.bind (.whenElse (.flag fields.lumaSampleOffset) consistent.lumaSampleOffset)
    fun mid => ?_
  refine ReadsBack.bind (.whenElse (.flag fields.chromaSampleOffset)
    consistent.chromaSampleOffset) fun mid => ?_
  refine ReadsBack.bind (.whenElse_of (fun isReferring => InterFields.decodes_coding
    (consistent.inter (Bool.not_eq_eq_eq_not.mp isReferring))) fun isIntra =>
      consistent.noReferences (Bool.not_eq_eq_eq_not.mp isIntra)) fun mid => ?_
  refine ReadsBack.bind (.signed fields.qpDelta) fun mid => ?_
  refine ReadsBack.bind (.whenElse (.signed fields.cbQpOffset) consistent.cbQpOffset)
    fun mid => ?_
  refine ReadsBack.bind (.whenElse (.signed fields.crQpOffset) consistent.crQpOffset)
    fun mid => ?_
  refine ReadsBack.bind (.whenElse (.flag fields.chromaOffsetLists) consistent.chromaOffsetLists)
    fun mid => ?_
  refine ReadsBack.bind (DeblockingFields.decodes_coding consistent.deblocking) fun mid => ?_
  refine ReadsBack.bind_last (.whenElse (.flag fields.loopFilterAcrossSlices)
    consistent.loopFilterAcrossSlices) ?_
  exact ReadsBack.done _

/-! ## Entry points, extension data and padding -/

theorem EntryPoints.decodes_coding {points : EntryPoints} {size : Nat}
    (consistent : points.ConsistentWith size) :
    Decodes (decoder size) points.coding points := by
  intro start stop
  refine ReadsBack.bind (.unsigned points.offsetsMinus1.length) fun mid => ?_
  refine ReadsBack.bind_first (.require (decide_eq_true consistent.length_lt)) ?_
  rcases points with ⟨offsetLengthMinus1, _ | ⟨offset, offsets⟩⟩
  · cases consistent.noOffsets rfl
    exact ReadsBack.done _
  · refine ReadsBack.bind (.boundedUnsigned consistent.offsetLengthMinus1_le) fun mid => ?_
    refine ReadsBack.bind_last
      (.replicate_map rfl fun offset => .bits offset (offsetLengthMinus1 + 1)) ?_
    exact ReadsBack.done _

namespace SliceHeader

theorem decodes_extensionCoding {data : List Nat} (length_le : data.length ≤ 256) :
    Decodes extensionDecoder (extensionCoding data) data := by
  intro start stop
  refine ReadsBack.bind (.boundedUnsigned length_le) fun mid => ?_
  exact Decodes.replicate_map rfl (fun byte => .bits byte 8) mid stop

theorem decodes_zero : Decodes zeroDecoder [.flag false] () := by
  intro start stop
  refine ReadsBack.bind_last (.flag false) ?_
  exact Decodes.require rfl stop stop

/-- The padding is a one and as many zeros as lead to the byte boundary. -/
theorem decodes_padding : Decodes paddingDecoder [.trailing] () := by
  have zeros (count : Nat) : Decodes (Decoder.replicate count zeroDecoder)
      ((List.replicate count false).map .flag) (List.replicate count ()) := by
    have length_eq : (List.replicate count ()).length = count := List.length_replicate
    have reads := Decodes.replicate_map length_eq fun _ => decodes_zero
    rw [List.map_replicate] at reads ⊢
    exact reads
  intro start stop
  have reads : ReadsBack paddingDecoder
      ((true :: List.replicate (Bits.toBoundary (start + 1)) false).map .flag) () start stop := by
    refine ReadsBack.bind_at (.flag true) ?_
    refine ReadsBack.bind_first (.require rfl) ?_
    refine ReadsBack.position_bind ?_
    exact ReadsBack.bind_last (zeros _) (.done ())
  refine reads.of_codeAll_eq ?_ ?_
  · rw [List.forall_mem_map]
    exact fun _ _ => ⟨trivial, rfl⟩
  · rw [CodedField.codeAll_map_flag, codeAll, codeAll, List.append_nil, CodedField.code]

/-! ## The whole header -/

variable {sequences : IdTable SequenceParameterSet} {pictures : IdTable PictureParameterSet}
  {pictureSet : PictureParameterSet} {sequenceSet : SequenceParameterSet} {header : SliceHeader}

theorem decodes_refuseExtensions {referring : ReferringStart}
    (noExtensions : referring.pictureSet.extensions.beyondRange = false)
    (noScreenContent : referring.sequenceSet.extensions.screenContent = false) :
    Decodes (refuseExtensions referring) [] () := by
  intro start stop
  refine ReadsBack.bind_first (.require (congrArg not noExtensions)) ?_
  exact Decodes.require (congrArg not noScreenContent) start stop

/-- A dependent segment has the fields that its picture parameter set gives, another one those that
it codes. -/
theorem decodes_sliceFields {segmentStart : SegmentStart} {unit : NalHeader} {fields : SliceFields}
    (dependent : segmentStart.sliceType = none → fields = .inherited pictureSet)
    (consistent : ∀ sliceType ∈ segmentStart.sliceType,
      fields.ConsistentWith unit.unitType pictureSet sequenceSet sliceType) :
    Decodes (sliceFieldsDecoder unit { start := segmentStart, pictureSet, sequenceSet })
      (present (fun sliceType => fields.coding unit.unitType pictureSet sequenceSet sliceType)
        segmentStart.sliceType)
      { fields with usedPictureCount := fields.kept.usedCount sequenceSet.shortTermSets } := by
  rcases segmentStart with ⟨_, _, _, _, _, _ | sliceType⟩
  · rw [dependent rfl]
    exact .done _
  · refine SliceFields.decodes_coding ?_
    exact consistent sliceType rfl

/-- The fields behind the header of the unit are read back. The pictures that can be referred to are
counted, and so are the bits. -/
theorem readsBack_fields (hasPictureSet : pictures.get? header.start.pictureSetId = some pictureSet)
    (hasSequenceSet : sequences.get? pictureSet.sequenceId = some sequenceSet)
    (noExtensions : pictureSet.extensions.beyondRange = false)
    (noScreenContent : sequenceSet.extensions.screenContent = false)
    (consistent : header.ConsistentWith pictureSet sequenceSet) (start stop : Nat) :
    ReadsBack (fieldsDecoder sequences pictures header.unit) (header.coding pictureSet sequenceSet)
      { header with
        fields.usedPictureCount := header.fields.kept.usedCount sequenceSet.shortTermSets
        sizeInBits := stop - start }
      start stop := by
  simp only [coding, List.append_assoc]
  refine ReadsBack.position_bind ?_
  refine ReadsBack.bind (SegmentStart.decodes_coding hasPictureSet hasSequenceSet consistent.start)
    fun mid => ?_
  refine ReadsBack.bind_first (decodes_refuseExtensions noExtensions noScreenContent) ?_
  refine ReadsBack.bind (decodes_sliceFields consistent.dependent consistent.fields) fun mid => ?_
  refine ReadsBack.bind (.whenElse (EntryPoints.decodes_coding consistent.entryPoints)
    consistent.noEntryPoints) fun mid => ?_
  refine ReadsBack.bind (.whenElse (decodes_extensionCoding consistent.extensionLength_le)
    consistent.noExtensionData) fun mid => ?_
  refine ReadsBack.bind_last decodes_padding ?_
  refine ReadsBack.position_bind ?_
  exact ReadsBack.done _

/-- A unit is read back from its first bit up to the slice data. -/
theorem readsBack_decoder
    (hasPictureSet : pictures.get? header.start.pictureSetId = some pictureSet)
    (hasSequenceSet : sequences.get? pictureSet.sequenceId = some sequenceSet)
    (noExtensions : pictureSet.extensions.beyondRange = false)
    (noScreenContent : sequenceSet.extensions.screenContent = false)
    (consistent : header.ConsistentWith pictureSet sequenceSet) (stop : Nat) :
    ReadsBack (decoder sequences pictures)
      (header.unit.coding ++ header.coding pictureSet sequenceSet)
      { header with
        fields.usedPictureCount := header.fields.kept.usedCount sequenceSet.shortTermSets
        sizeInBits := stop - (codeAll header.unit.coding 0).length }
      0 stop := by
  refine ReadsBack.bind_at (SegmentStart.decodes_unitCoding consistent.hasSliceHeader
    consistent.typeOfCode consistent.layerId consistent.temporalIdPlus1) ?_
  rw [Nat.zero_add]
  exact ReadsBack.within (readsBack_fields hasPictureSet hasSequenceSet noExtensions
    noScreenContent consistent _ stop)

end SliceHeader

namespace SliceSegment

variable {sequences : IdTable SequenceParameterSet} {pictures : IdTable PictureParameterSet}
  {pictureSet : PictureParameterSet} {sequenceSet : SequenceParameterSet} {header : SliceHeader}

/-- The data of a segment starts where its header ends. -/
theorem ofUnit_of_decodeUnit {front back : List UInt8}
    (decoded : (SliceHeader.decoder sequences pictures).decodeUnit (front ++ back) = .ok header)
    (noZeros : Emulation.zerosBehind 0 front = 0)
    (size_eq : 16 + header.sizeInBits = 8 * (Emulation.remove front).length) :
    ofUnit sequences pictures (front ++ back) = .ok { header, dataOffset := front.length } := by
  rw [Decoder.decodeUnit] at decoded
  rcases run_eq : (SliceHeader.decoder sequences pictures).run
    (EscapedReader.ofUnit (front ++ back)) with ⟨result, last⟩
  rw [run_eq] at decoded
  cases decoded
  have starts : (EscapedReader.ofUnit (front ++ back)).source.ValidIn (front ++ back) ∧
      (EscapedReader.ofUnit (front ++ back)).position = 0 :=
    ⟨EscapedSource.validIn_ofUnit (front ++ back), rfl⟩
  rcases SliceHeader.ensures_decoder sequences pictures _ last header starts run_eq with
    ⟨cut, position_eq⟩
  rw [ofUnit_eq, run_eq]
  simp only [Except.map]
  -- The reader stops at a cut too, behind as much payload, and there is one such cut only.
  rw [cut.loaded_eq noZeros (position_eq.symm.trans size_eq)]

/-- A header that is consistent with its parameter sets is written up to the padding, and whatever
data follows, the finished header and the escaped data are a unit that is decoded to that header.
The pictures that can be referred to are counted, the size is the number of bits that were written
behind the header of the unit, and the data starts behind the finished header. -/
theorem ofUnit_written_segment
    (hasPictureSet : pictures.get? header.start.pictureSetId = some pictureSet)
    (hasSequenceSet : sequences.get? pictureSet.sequenceId = some sequenceSet)
    (noExtensions : pictureSet.extensions.beyondRange = false)
    (noScreenContent : sequenceSet.extensions.screenContent = false)
    (consistent : header.ConsistentWith pictureSet sequenceSet) (data : List Bool) :
    ∃ opened written : EscapedWriter,
      CodedField.writeAll header.unit.coding {} = .ok opened ∧
        CodedField.writeAll (header.coding pictureSet sequenceSet) opened = .ok written ∧
        header.toUnit pictureSet sequenceSet data =
          .ok (written.finish ++ Emulation.insert (Bits.pack data)) ∧
        ofUnit sequences pictures (written.finish ++ Emulation.insert (Bits.pack data)) = .ok {
          header := { header with
            fields.usedPictureCount := header.fields.kept.usedCount sequenceSet.shortTermSets
            sizeInBits := BitSink.bitsWritten written - BitSink.bitsWritten opened }
          dataOffset := written.finish.length } := by
  obtain ⟨opened, written, opened_eq, written_eq, openedBits, writtenBits⟩ :=
    CodedField.exists_writeAll_parts consistent.exact
  have size_eq : 16 + (BitSink.bitsWritten written - BitSink.bitsWritten opened) =
      (codeAll (header.unit.coding ++ header.coding pictureSet sequenceSet) 0).length := by
    rw [writtenBits, openedBits, CodedField.codeAll_append, List.length_append]
    exact congrArg (16 + ·) (Nat.add_sub_cancel_left _ _)
  have reads := SliceHeader.readsBack_decoder hasPictureSet hasSequenceSet noExtensions
    noScreenContent consistent (BitSink.bitsWritten written)
  rw [← openedBits] at reads
  have allWritten := (CodedField.writeAll_append opened_eq).trans written_eq
  -- The padding is the last field of the header, so the unit can be cut behind it.
  obtain ⟨fields, coding_eq⟩ : ∃ fields, header.unit.coding ++
      header.coding pictureSet sequenceSet = fields ++ [.trailing] := by
    rw [SliceHeader.coding, ← List.append_assoc]
    exact ⟨_, rfl⟩
  have exact := consistent.exact
  rw [coding_eq] at exact reads allWritten writtenBits size_eq
  have fit : ∀ field ∈ fields ++ [.trailing], field.Fits := fun field isThere =>
    (exact field isThere).1
  obtain ⟨bits_eq, noZeros⟩ := CodedField.finish_trailing fit allWritten
  refine ⟨opened, written, opened_eq, written_eq, ?_, ?_⟩
  · have allFit := List.forall_mem_append.mpr ⟨fit, CodedField.fits_of_mem_map_flag data⟩
    rw [SliceHeader.toUnit, coding_eq, CodedField.toUnit_append_trailing allFit allWritten,
      CodedField.codeAll_map_flag]
  · apply ofUnit_of_decodeUnit ?_ noZeros
    · rw [size_eq, ← bits_eq, Bits.length_ofBytes]
    · exact Decoder.decodeUnit_finish_append reads exact writtenBits.symm allWritten _

/-! ### A header with most fields -/

/-- A sequence of pictures of 1920 by 1080 samples with a short-term set and two candidates for
long-term reference. -/
def richSequence : SequenceParameterSet where
  videoSetId := 0
  maxSubLayersMinus1 := 0
  temporalIdNesting := true
  profileTierLevel := {
    profileBlock := some { idc := 1, compatibility := 1610612736 }
    levelIdc := 120
    subLayers := [] }
  id := 0
  chroma := 1
  separatePlanes := false
  codedWidth := 1920
  codedHeight := 1080
  conformanceWindow := none
  lumaDepthMinus8 := 0
  chromaDepthMinus8 := 0
  log2MaxPictureOrderMinus4 := 4
  orderingOfEach := true
  ordering := [{
    maxStoredPicturesMinus1 := 4
    maxReorderedPictures := 2
    maxLatencyIncreasePlus1 := 0 }]
  blocks := {
    log2MinCodingMinus3 := 0
    log2CodingRange := 3
    log2MinTransformMinus2 := 0
    log2TransformRange := 3
    maxTransformDepthInter := 0
    maxTransformDepthIntra := 0 }
  scaling := .flat
  asymmetricPartitions := true
  sampleAdaptiveOffset := true
  pcm := none
  shortTermSets := [{
    prediction := none
    before := [{ delta := -1, used := true }]
    after := [] }]
  longTermCandidates := some [{ lowBits := 17, used := true }, { lowBits := 200, used := false }]
  temporalMotionPrediction := true
  strongIntraSmoothing := true
  usability := none
  extensions := {}

/-- A set for pictures of that sequence with two tiles and most optional fields. -/
def richPicture : PictureParameterSet where
  id := 0
  sequenceId := 0
  dependentSegments := true
  outputFlagPresent := true
  reservedFlagCount := 2
  signDataHiding := false
  arithmeticInitPresent := true
  defaultActiveList0Minus1 := 0
  defaultActiveList1Minus1 := 0
  initialQpMinus26 := 0
  constrainedIntraPrediction := false
  transformSkip := false
  qpDeltaDepth := none
  cbQpOffset := 0
  crQpOffset := 0
  sliceChromaOffsetsPresent := true
  weightedPrediction := false
  weightedBiprediction := true
  transquantBypass := false
  entropySynchronisation := false
  tiles := some { columnsMinus1 := 1, rowsMinus1 := 0, sizes := none, loopFilterAcross := true }
  loopFilterAcrossSlices := true
  deblocking := some {
    overrideEnabled := true
    disabled := false
    betaOffsetDiv2 := 0
    tcOffsetDiv2 := 0 }
  scalingLists := none
  listModificationPresent := true
  log2MergeLevelMinus2 := 0
  headerExtensionPresent := true
  extensions := {}
  rangeExtension := none

/-- The header of a slice that codes its own short-term set, has a long-term picture of either kind,
modifies a reference list and has weights. -/
def richHeader : SliceHeader where
  unit := { unitType := .trailR, layerId := 0, temporalIdPlus1 := 1 }
  start := {
    isFirst := false
    noOutputOfPriorPictures := false
    pictureSetId := 0
    address := 100
    reservedFlags := 2
    sliceType := some .b }
  fields := {
    kept := {
      pictureOrderLowBits := 9
      shortTerm := .own {
        prediction := none
        before := [{ delta := -1, used := true }, { delta := -3, used := false }]
        after := [{ delta := 2, used := true }] } 17
      longTerm := [
        { candidateIndex := some 0, picture := { lowBits := 17, used := true }
          highBitsDelta := none },
        { candidateIndex := none, picture := { lowBits := 99, used := true }
          highBitsDelta := some 2 }]
      temporalMotionPrediction := true }
    lumaSampleOffset := true
    chromaSampleOffset := false
    usedPictureCount := 4
    inter := {
      active := { overridden := true, list0Minus1 := 1, list1Minus1 := 0 }
      modification := some { list0 := some [2, 0], list1 := none }
      zeroList1Differences := true
      arithmeticInit := true
      collocated := { fromList0 := true, index := 1 }
      weights := some {
        lumaLog2Denominator := 6
        chromaLog2Denominator := 5
        list0 := [
          { luma := some { factor := 3, offset := -4 }, chroma := none },
          { luma := none
            chroma := some ({ factor := 2, offset := -8 }, { factor := 0, offset := 1 }) }]
        list1 := [{ luma := none, chroma := none }] } }
    qpDelta := -5
    cbQpOffset := 1
    crQpOffset := -1
    deblocking := { overridden := true, disabled := false, betaOffsetDiv2 := 2, tcOffsetDiv2 := -1 }
    loopFilterAcrossSlices := true }
  entryPoints := { offsetLengthMinus1 := 4, offsetsMinus1 := [16] }
  extensionData := [0xaa, 0x55]
  sizeInBits := 192

theorem consistent_richKept : richHeader.fields.kept.ConsistentWith richSequence where
  shortTerm := by
    refine ⟨⟨rfl, by decide, ?_, ?_⟩, by decide +kernel⟩
    · exact ⟨⟨0, by decide, rfl⟩, ⟨1, by decide, rfl⟩, trivial⟩
    · exact ⟨⟨1, by decide, rfl⟩, trivial⟩
  noLongTerm := by decide
  longTerm_eq := rfl
  length_le := by decide
  chosen_le := by
    rintro candidates ⟨⟩
    decide
  longTerm := by
    rintro candidates ⟨⟩
    refine List.forall_mem_cons.mpr ⟨?_, List.forall_mem_singleton.mpr ?_⟩
    · rintro index ⟨⟩
      rfl
    · rintro index ⟨⟩
  temporalMotionPrediction := by decide

theorem consistent_richInter : richHeader.fields.inter.ConsistentWith richPicture
    richSequence .b richHeader.fields.kept where
  active := ⟨by decide, by decide, by decide, by decide⟩
  hasModification := rfl
  modification := by
    rintro modification ⟨⟩
    exact ⟨by rintro places ⟨⟩; rfl, by rintro places ⟨⟩, by decide⟩
  zeroList1Differences := by decide
  arithmeticInit := by decide
  noCollocated := by decide
  collocated := ⟨by decide, by decide⟩
  hasWeights := rfl
  weights := by
    rintro weights ⟨⟩
    exact ⟨by decide, rfl, fun _ => rfl, by decide, by decide⟩

theorem consistent_richHeader : richHeader.ConsistentWith richPicture richSequence where
  hasSliceHeader := rfl
  typeOfCode := rfl
  layerId := rfl
  temporalIdPlus1 := by decide
  exact := by decide +kernel
  start := ⟨fun _ => rfl, fun _ => rfl, by decide, fun _ => by decide, by decide⟩
  dependent := by decide
  fields := by
    rintro sliceType ⟨⟩
    exact {
      pictureOutput := fun _ => rfl
      colourPlane := fun _ => rfl
      refreshed := by decide
      kept := fun _ => consistent_richKept
      lumaSampleOffset := by decide
      chromaSampleOffset := fun _ => rfl
      noReferences := by decide
      inter := fun _ => consistent_richInter
      cbQpOffset := by decide
      crQpOffset := by decide
      chromaOffsetLists := fun _ => rfl
      deblocking := ⟨by decide, by decide, by decide, by decide⟩
      loopFilterAcrossSlices := fun _ => rfl }
  noEntryPoints := by decide
  entryPoints := ⟨by decide, by decide, by decide⟩
  noExtensionData := by decide
  extensionLength_le := by decide

/-- That header is written and decoded with sets that are decoded themselves. -/
theorem ofUnit_written_segment_sample :
    let sequences := IdTable.empty.insert 0 richSequence
    let pictures := IdTable.empty.insert 0 richPicture
    (SequenceParameterSet.ofUnit
        [0x42, 0x01, 0x01, 0x01, 0x60, 0x00, 0x00, 0x03, 0x00, 0x00, 0x03, 0x00, 0x00, 0x03, 0x00,
          0x00, 0x03, 0x00, 0x78, 0xa0, 0x03, 0xc0, 0x80, 0x10, 0xe5, 0x96, 0x57, 0x92, 0x4d, 0x92,
          0xf6, 0x23, 0xc8, 0x64]).toOption = some richSequence ∧
      (PictureParameterSet.ofUnit [0x44, 0x01, 0xf4, 0xf1, 0xd4, 0xbf, 0x6e, 0x80]).toOption =
        some richPicture ∧
      ∃ opened written : EscapedWriter,
        CodedField.writeAll richHeader.unit.coding {} = .ok opened ∧
          CodedField.writeAll (richHeader.coding richPicture richSequence) opened =
            .ok written ∧
          richHeader.toUnit richPicture richSequence [true, false, true] =
            .ok (written.finish ++ Emulation.insert (Bits.pack [true, false, true])) ∧
          ofUnit sequences pictures
              (written.finish ++ Emulation.insert (Bits.pack [true, false, true])) = .ok {
            header := { richHeader with
              fields.usedPictureCount :=
                richHeader.fields.kept.usedCount richSequence.shortTermSets
              sizeInBits := BitSink.bitsWritten written - BitSink.bitsWritten opened }
            dataOffset := written.finish.length } := by
  refine ⟨by decide +kernel, by decide +kernel, ?_⟩
  exact ofUnit_written_segment rfl rfl rfl rfl consistent_richHeader [true, false, true]

end SliceSegment

end CodedVideo.Hevc
