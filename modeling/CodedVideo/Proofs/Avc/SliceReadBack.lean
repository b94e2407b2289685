import CodedVideo.Avc.SliceCoding
import CodedVideo.Proofs.NalUnit.WrittenUnit
import CodedVideo.Proofs.SharedCoding
import CodedVideo.Proofs.UnitHeaders

/-!
# Reading AVC slice headers back

A header is consistent with the parameter sets that it refers to if each field that they ask for can
be coded and everything else has the value that a reader assumes. Such a header, written field by
field, is decoded to itself, whatever slice data follows.

Main statement: `SliceHeader.ofUnit_written_slice`.
-/

namespace CodedVideo.Avc

open CodedField (codeAll flagged onlyIf present)
open Decoder (Decodes ReadsBack)
open SliceHeader

/-! ## Consistent headers -/

/-- What is not coded of the picture order count is zero. -/
def PictureOrderFields.ConsistentWith (order : PictureOrderFields) (kind : PictureOrder)
    (bottomDeltaPresent : Bool) : Prop :=
  match kind with
  | .lowBits _ =>
      order.firstDelta = 0 ∧ order.secondDelta = 0 ∧
        (bottomDeltaPresent = false → order.bottomDelta = 0)
  | .cycle false _ _ _ =>
      order.lowBits = 0 ∧ order.bottomDelta = 0 ∧
        (bottomDeltaPresent = false → order.secondDelta = 0)
  | _ => order = {}

/-- The numbers of reference pictures that a slice does not code are those of its picture parameter
set. -/
structure ActiveReferences.ConsistentWith (active : ActiveReferences)
    (pictureSet : PictureParameterSet) (sliceType : SliceType) : Prop where
  overridden : sliceType.usesList0 = false → active.overridden = false
  list0Minus1 :
    active.overridden = false → active.list0Minus1 = pictureSet.defaultActiveList0Minus1
  list1Minus1 : (active.overridden && sliceType.isBidirectional) = false →
    active.list1Minus1 = pictureSet.defaultActiveList1Minus1

/-- There are weights for each picture in use, and weights for chroma only where it is coded. -/
structure WeightTable.ConsistentWith (weights : WeightTable) (chromaCoded bidirectional : Bool)
    (active : ActiveReferences) : Prop where
  chromaLog2Denominator : chromaCoded = false → weights.chromaLog2Denominator = 0
  list0_length : weights.list0.length = active.list0Minus1 + 1
  list1_length : bidirectional = true → weights.list1.length = active.list1Minus1 + 1
  list1_unused : bidirectional = false → weights.list1 = []
  chroma : chromaCoded = false → ∀ weight ∈ weights.list0 ++ weights.list1, weight.chroma = none

/-- Only a refresh has the marking of a refresh. -/
def ReferenceMarking.ConsistentWith (marking : ReferenceMarking) (idr : Bool) : Prop :=
  match marking with
  | refresh _ _ => idr = true
  | slidingWindow | adaptive _ => idr = false

/-- With the filter off there are no offsets. -/
def DeblockingFields.ConsistentWith (deblocking : DeblockingFields) : Prop :=
  deblocking.disableIdc = 1 → deblocking.alphaOffsetDiv2 = 0 ∧ deblocking.betaOffsetDiv2 = 0

/-- The header can be written with the parameter sets: it opens a unit that has a slice header, each
field that is coded has the width or the range of its form, lists have the lengths that are in use,
and what is not coded has the value that a reader assumes. -/
structure SliceHeader.ConsistentWith (header : SliceHeader) (sequenceSet : SequenceParameterSet)
    (pictureSet : PictureParameterSet) : Prop where
  hasSliceHeader : header.unit.unitType.hasSliceHeader = true
  exact : ∀ field ∈ header.unit.coding ++ header.coding sequenceSet pictureSet, field.Exact
  typeCode : SliceType.ofCode? header.typeCode = some header.sliceType
  colourPlane : sequenceSet.format.separatePlanes = false → header.colourPlane = 0
  pictureStructure : sequenceSet.framesOnly = true → header.pictureStructure = .frame
  idrPictureId : header.unit.unitType.isIdr = false → header.idrPictureId = 0
  pictureOrder : header.pictureOrder.ConsistentWith sequenceSet.pictureOrder
    (pictureSet.bottomFieldOrderPresent && header.pictureStructure == .frame)
  redundantPictureCount :
    pictureSet.redundantPictureCountPresent = false → header.redundantPictureCount = 0
  directSpatial : header.sliceType.isBidirectional = false → header.directSpatial = false
  activeReferences : header.activeReferences.ConsistentWith pictureSet header.sliceType
  list0Modification : header.sliceType.isIntra = true → header.list0Modification = none
  list1Modification : header.sliceType.isBidirectional = false → header.list1Modification = none
  hasWeights : header.weights.isSome = hasWeights pictureSet header.sliceType
  weights : ∀ weights ∈ header.weights,
    weights.ConsistentWith (sequenceSet.codedChroma != 0) header.sliceType.isBidirectional
      header.activeReferences
  hasMarking : header.marking.isSome = (header.unit.refIdc != 0)
  marking : ∀ marking ∈ header.marking, marking.ConsistentWith header.unit.unitType.isIdr
  arithmeticInitIdc : (pictureSet.arithmeticCoding && !header.sliceType.isIntra) = false →
    header.arithmeticInitIdc = 0
  switchForSp : header.sliceType ≠ .sp → header.switchForSp = false
  qsDelta : header.sliceType.isSwitching = false → header.qsDelta = 0
  noDeblocking : pictureSet.deblockingControlPresent = false → header.deblocking = {}
  deblocking : header.deblocking.ConsistentWith
  sliceGroupChangeCycle : pictureSet.changeRate? = none → header.sliceGroupChangeCycle = 0

/-! ## The header of the unit -/

/-- The type of a unit that opens with a slice header has a code. -/
theorem NalUnitType.ofCode_code {unitType : NalUnitType}
    (hasSliceHeader : unitType.hasSliceHeader = true) : ofCode unitType.code = unitType := by
  revert hasSliceHeader
  cases unitType <;> first | (intro; rfl) | (intro impossible; cases impossible)

/-! ## Parts -/

theorem SliceHeader.decodes_wideField (name : String) (value width : Nat) :
    Decodes (wideField name width) [.bits value width] value := by
  intro start stop exact
  have fits : width ≤ 32 := (exact _ (List.mem_singleton_self _)).1
  rw [wideField, if_neg (Nat.not_lt.mpr fits)]
  exact Decodes.bits value width start stop exact

theorem SliceHeader.decodes_typeDecoder {code : Nat} {sliceType : SliceType}
    (ofCode_eq : SliceType.ofCode? code = some sliceType) :
    Decodes typeDecoder [.unsigned code] (code, sliceType) := by
  intro start stop
  refine ReadsBack.bind_last (.unsigned code) ?_
  rw [ofCode_eq]
  exact ReadsBack.done _

theorem PictureStructure.decodes_coding {framesOnly : Bool} {pictureStructure : PictureStructure}
    (isFrame : framesOnly = true → pictureStructure = .frame) :
    Decodes (pictureStructureDecoder framesOnly) (pictureStructure.coding framesOnly)
      pictureStructure := by
  cases framesOnly with
  | true =>
      rw [isFrame rfl]
      exact .done _
  | false =>
      intro start stop
      cases pictureStructure with
      | frame => exact ReadsBack.bind_last (.flag false) (.done _)
      | topField =>
          refine ReadsBack.bind (.flag true) fun mid => ?_
          exact ReadsBack.bind_last (.flag false) (.done _)
      | bottomField =>
          refine ReadsBack.bind (.flag true) fun mid => ?_
          exact ReadsBack.bind_last (.flag true) (.done _)

theorem PictureOrderFields.decodes_coding {order : PictureOrderFields}
    {sequenceSet : SequenceParameterSet} {bottomDeltaPresent : Bool}
    (consistent : order.ConsistentWith sequenceSet.pictureOrder bottomDeltaPresent) :
    Decodes (pictureOrderDecoder sequenceSet bottomDeltaPresent)
      (order.coding sequenceSet bottomDeltaPresent) order := by
  rcases order with ⟨lowBits, bottomDelta, firstDelta, secondDelta⟩
  rw [pictureOrderDecoder, coding]
  generalize sequenceSet.pictureOrder = kind at consistent ⊢
  intro start stop
  rcases kind with log2MaxMinus4 | ⟨_ | _, _, _, _⟩ | kind
  · obtain ⟨rfl, rfl, noDelta⟩ := consistent
    refine ReadsBack.bind (decodes_wideField _ lowBits _) fun mid => ?_
    refine ReadsBack.bind_last (.whenElse (.signed bottomDelta) noDelta) ?_
    exact ReadsBack.done _
  · obtain ⟨rfl, rfl, noDelta⟩ := consistent
    refine ReadsBack.bind (.signed firstDelta) fun mid => ?_
    refine ReadsBack.bind_last (.whenElse (.signed secondDelta) noDelta) ?_
    exact ReadsBack.done _
  · cases consistent
    exact ReadsBack.done _
  · cases consistent
    exact ReadsBack.done _

theorem ActiveReferences.decodes_coding {active : ActiveReferences}
    {pictureSet : PictureParameterSet} {sliceType : SliceType}
    (consistent : active.ConsistentWith pictureSet sliceType) :
    Decodes (activeReferencesDecoder pictureSet sliceType) (active.coding sliceType) active := by
  rcases active with ⟨overridden, list0Minus1, list1Minus1⟩
  rcases consistent with ⟨notOverridden, list0_eq, list1_eq⟩
  intro start stop
  refine ReadsBack.bind (.whenElse (.flag overridden) notOverridden) fun mid => ?_
  cases overridden with
  | true =>
      refine ReadsBack.bind (.unsigned list0Minus1) fun mid => ?_
      refine ReadsBack.bind_last (.whenElse (.unsigned list1Minus1) list1_eq) ?_
      exact ReadsBack.done _
  | false =>
      rw [if_neg Bool.false_ne_true, ← list0_eq rfl, ← list1_eq rfl]
      exact ReadsBack.done _

/-! ### Modifications of reference lists -/

theorem ListModification.decodes_listCoding (steps : List ListModification) :
    Decodes (Decoder.seriesOf listModificationEntry) (listCoding steps) steps := by
  apply Decodes.seriesOf
  · intro step
    cases step with
    | subtract differenceMinus1 =>
        refine ⟨0, _, rfl, fun start stop => ?_⟩
        exact ReadsBack.bind_last (.unsigned differenceMinus1) (.done _)
    | add differenceMinus1 =>
        refine ⟨1, _, rfl, fun start stop => ?_⟩
        exact ReadsBack.bind_last (.unsigned differenceMinus1) (.done _)
    | longTerm pictureNumber =>
        refine ⟨2, _, rfl, fun start stop => ?_⟩
        exact ReadsBack.bind_last (.unsigned pictureNumber) (.done _)
  · exact .done none

theorem ListModification.decodes_flagged (steps : Option (List ListModification)) :
    Decodes listModificationDecoder (flagged listCoding steps) steps :=
  .optionalBehindFlag fun steps _ => decodes_listCoding steps

/-! ### Weights -/

namespace WeightTable

theorem decodes_weightCoding {chromaCoded : Bool} {weight : PredictionWeight}
    (chroma : chromaCoded = false → weight.chroma = none) :
    Decodes (predictionWeightDecoder chromaCoded) (weightCoding chromaCoded weight) weight := by
  intro start stop
  refine ReadsBack.optionalBehindFlag_bind (fun luma _ => luma.decodes_coding) fun mid => ?_
  cases chromaCoded with
  | false =>
      rcases weight with ⟨luma, chroma⟩
      cases chroma rfl
      exact ReadsBack.done _
  | true =>
      refine ReadsBack.bind (.flag weight.chroma.isSome) fun mid => ?_
      refine ReadsBack.bind_last (.optional rfl fun chroma _ => Weight.decodes_pairCoding chroma) ?_
      exact ReadsBack.done weight

theorem decodes_coding {weights : WeightTable} {chromaCoded bidirectional : Bool}
    {active : ActiveReferences}
    (consistent : weights.ConsistentWith chromaCoded bidirectional active) :
    Decodes (weightTableDecoder chromaCoded bidirectional active)
      (weights.coding chromaCoded bidirectional) weights := by
  have entries : ∀ weight ∈ weights.list0 ++ weights.list1,
      Decodes (predictionWeightDecoder chromaCoded) (weightCoding chromaCoded weight) weight :=
    fun weight isThere => decodes_weightCoding fun notCoded =>
      consistent.chroma notCoded weight isThere
  rw [List.forall_mem_append] at entries
  simp only [coding, List.append_assoc]
  intro start stop
  refine ReadsBack.bind (.unsigned weights.lumaLog2Denominator) fun mid => ?_
  refine ReadsBack.bind (.whenElse (.unsigned weights.chromaLog2Denominator)
    consistent.chromaLog2Denominator) fun mid => ?_
  refine ReadsBack.bind (.replicate consistent.list0_length entries.1) fun mid => ?_
  refine ReadsBack.bind_last (.whenElse_of (fun isThere =>
    .replicate (consistent.list1_length isThere) entries.2) consistent.list1_unused) ?_
  exact ReadsBack.done weights

end WeightTable

/-! ### Kept pictures -/

theorem MemoryOperation.decodes_operations (operations : List MemoryOperation) :
    Decodes (Decoder.seriesOf memoryOperationEntry)
      (operations.flatMap MemoryOperation.coding ++ [.unsigned 0]) operations := by
  apply Decodes.seriesOf
  · intro operation
    cases operation with
    | dropShortTerm differenceMinus1 =>
        refine ⟨1, _, rfl, fun start stop => ?_⟩
        exact ReadsBack.bind_last (.unsigned differenceMinus1) (.done _)
    | dropLongTerm pictureNumber =>
        refine ⟨2, _, rfl, fun start stop => ?_⟩
        exact ReadsBack.bind_last (.unsigned pictureNumber) (.done _)
    | makeLongTerm differenceMinus1 frameIndex =>
        refine ⟨3, _, rfl, fun start stop => ?_⟩
        refine ReadsBack.bind (.unsigned differenceMinus1) fun mid => ?_
        exact ReadsBack.bind_last (.unsigned frameIndex) (.done _)
    | limitLongTerm maxFrameIndexPlus1 =>
        refine ⟨4, _, rfl, fun start stop => ?_⟩
        exact ReadsBack.bind_last (.unsigned maxFrameIndexPlus1) (.done _)
    | dropAll => exact ⟨5, _, rfl, .done _⟩
    | makeCurrentLongTerm frameIndex =>
        refine ⟨6, _, rfl, fun start stop => ?_⟩
        exact ReadsBack.bind_last (.unsigned frameIndex) (.done _)
  · exact .done none

theorem ReferenceMarking.decodes_coding {marking : ReferenceMarking} {idr : Bool}
    (consistent : marking.ConsistentWith idr) :
    Decodes (markingDecoder idr) marking.coding marking := by
  intro start stop
  cases marking with
  | refresh noOutputOfPriorPictures longTermReference =>
      cases consistent
      refine ReadsBack.bind (.flag noOutputOfPriorPictures) fun mid => ?_
      exact ReadsBack.bind_last (.flag longTermReference) (.done _)
  | slidingWindow =>
      cases consistent
      exact ReadsBack.bind_last (.flag false) (.done _)
  | adaptive operations =>
      cases consistent
      refine ReadsBack.bind (.flag true) fun mid => ?_
      exact ReadsBack.bind_last (MemoryOperation.decodes_operations operations) (.done _)

/-! ### Filtering and slice groups -/

theorem DeblockingFields.decodes_coding {deblocking : DeblockingFields}
    (consistent : deblocking.ConsistentWith) :
    Decodes deblockingDecoder deblocking.coding deblocking := by
  rcases deblocking with ⟨disableIdc, alphaOffsetDiv2, betaOffsetDiv2⟩
  intro start stop
  refine ReadsBack.bind (.unsigned disableIdc) fun mid => ?_
  by_cases isOff : disableIdc = 1
  · subst isOff
    obtain ⟨rfl, rfl⟩ := consistent rfl
    exact ReadsBack.done _
  · simp only [bne_iff_ne, ne_eq, isOff, not_false_eq_true, if_true, if_false]
    refine ReadsBack.bind (.signed alphaOffsetDiv2) fun mid => ?_
    exact ReadsBack.bind_last (.signed betaOffsetDiv2) (.done _)

theorem SliceHeader.decodes_changeCycle {sequenceSet : SequenceParameterSet}
    {pictureSet : PictureParameterSet} {changeCycle : Nat}
    (notCoded : pictureSet.changeRate? = none → changeCycle = 0) :
    Decodes (changeCycleDecoder sequenceSet pictureSet)
      (changeCycleCoding sequenceSet pictureSet changeCycle) changeCycle := by
  rw [changeCycleDecoder, changeCycleCoding]
  generalize pictureSet.changeRate? = rate? at notCoded ⊢
  cases rate? with
  | none =>
      rw [notCoded rfl]
      exact .done 0
  | some rate => exact decodes_wideField _ changeCycle _

/-! ## The whole header -/

namespace SliceHeader

variable {sequences : IdTable SequenceParameterSet} {pictures : IdTable PictureParameterSet}
  {sequenceSet : SequenceParameterSet} {pictureSet : PictureParameterSet} {header : SliceHeader}

theorem decodes_findPictureSet {id : Nat} (isThere : pictures.get? id = some pictureSet) :
    Decodes (findPictureSet pictures id) [] pictureSet := by
  rw [findPictureSet, isThere]
  exact .done pictureSet

theorem decodes_findSequenceSet {id : Nat} (isThere : sequences.get? id = some sequenceSet) :
    Decodes (findSequenceSet sequences id) [] sequenceSet := by
  rw [findSequenceSet, isThere]
  exact .done sequenceSet

/-- The fields behind the header of the unit are read back, and their bits are counted. -/
theorem readsBack_fields (hasPictureSet : pictures.get? header.pictureSetId = some pictureSet)
    (hasSequenceSet : sequences.get? pictureSet.sequenceId = some sequenceSet)
    (consistent : header.ConsistentWith sequenceSet pictureSet) (start stop : Nat) :
    ReadsBack (fields sequences pictures header.unit) (header.coding sequenceSet pictureSet)
      { header with sizeInBits := stop - start } start stop := by
  -- The equation of `coding` takes far longer to derive than its definition to unfold.
  delta coding
  simp only [List.append_assoc, List.cons_append, List.nil_append]
  refine ReadsBack.position_bind ?_
  refine ReadsBack.bind (.unsigned header.firstMacroblock) fun mid => ?_
  refine ReadsBack.bind (decodes_typeDecoder consistent.typeCode) fun mid => ?_
  refine ReadsBack.bind (.unsigned header.pictureSetId) fun mid => ?_
  refine ReadsBack.bind_first (decodes_findPictureSet hasPictureSet) ?_
  refine ReadsBack.bind_first (decodes_findSequenceSet hasSequenceSet) ?_
  refine ReadsBack.bind (.whenElse (.bits header.colourPlane 2) consistent.colourPlane)
    fun mid => ?_
  refine ReadsBack.bind (decodes_wideField _ header.frameNum _) fun mid => ?_
  refine ReadsBack.bind (PictureStructure.decodes_coding consistent.pictureStructure)
    fun mid => ?_
  refine ReadsBack.bind (.whenElse (.unsigned header.idrPictureId) consistent.idrPictureId)
    fun mid => ?_
  refine ReadsBack.bind (PictureOrderFields.decodes_coding consistent.pictureOrder)
    fun mid => ?_
  refine ReadsBack.bind (.whenElse (.unsigned header.redundantPictureCount)
    consistent.redundantPictureCount) fun mid => ?_
  refine ReadsBack.bind (.whenElse (.flag header.directSpatial) consistent.directSpatial)
    fun mid => ?_
  refine ReadsBack.bind (ActiveReferences.decodes_coding consistent.activeReferences)
    fun mid => ?_
  refine ReadsBack.bind (.whenElse (ListModification.decodes_flagged header.list0Modification)
    fun notCoded => consistent.list0Modification (Bool.not_eq_eq_eq_not.mp notCoded)) fun mid => ?_
  refine ReadsBack.bind (.whenElse (ListModification.decodes_flagged header.list1Modification)
    consistent.list1Modification) fun mid => ?_
  refine ReadsBack.bind (.optional consistent.hasWeights fun weights isThere =>
    WeightTable.decodes_coding (consistent.weights weights isThere)) fun mid => ?_
  refine ReadsBack.bind (.optional consistent.hasMarking fun marking isThere =>
    ReferenceMarking.decodes_coding (consistent.marking marking isThere)) fun mid => ?_
  refine ReadsBack.bind (.whenElse (.unsigned header.arithmeticInitIdc)
    consistent.arithmeticInitIdc) fun mid => ?_
  refine ReadsBack.bind (.signed header.qpDelta) fun mid => ?_
  refine ReadsBack.bind (.whenElse (.flag header.switchForSp) fun notCoded =>
    consistent.switchForSp (beq_eq_false_iff_ne.mp notCoded)) fun mid => ?_
  refine ReadsBack.bind (.whenElse (.signed header.qsDelta) consistent.qsDelta) fun mid => ?_
  refine ReadsBack.bind (.whenElse (DeblockingFields.decodes_coding consistent.deblocking)
    consistent.noDeblocking) fun mid => ?_
  refine ReadsBack.bind_last (decodes_changeCycle consistent.sliceGroupChangeCycle) ?_
  refine ReadsBack.position_bind ?_
  exact ReadsBack.done _

/-- A unit is read back from its first bit up to the end of the slice header. -/
theorem readsBack_decoder (hasPictureSet : pictures.get? header.pictureSetId = some pictureSet)
    (hasSequenceSet : sequences.get? pictureSet.sequenceId = some sequenceSet)
    (consistent : header.ConsistentWith sequenceSet pictureSet) (stop : Nat) :
    ReadsBack (decoder sequences pictures)
      (header.unit.coding ++ header.coding sequenceSet pictureSet)
      { header with sizeInBits := stop - (codeAll header.unit.coding 0).length } 0 stop := by
  refine ReadsBack.bind_at (.within (NalHeader.decodes_coding
    (NalUnitType.ofCode_code consistent.hasSliceHeader))) ?_
  refine ReadsBack.bind_first (.require consistent.hasSliceHeader) ?_
  rw [Nat.zero_add]
  exact ReadsBack.within (readsBack_fields hasPictureSet hasSequenceSet consistent _ stop)

/-- A header that is consistent with its parameter sets is written to a unit, and whatever data
follows, the unit is decoded to that header. Its size is the number of bits that were written for it
behind the header of the unit. -/
theorem ofUnit_written_slice (hasPictureSet : pictures.get? header.pictureSetId = some pictureSet)
    (hasSequenceSet : sequences.get? pictureSet.sequenceId = some sequenceSet)
    (consistent : header.ConsistentWith sequenceSet pictureSet) (data : List Bool) :
    ∃ (opened written : EscapedWriter) (unit : List UInt8),
      CodedField.writeAll header.unit.coding {} = .ok opened ∧
        CodedField.writeAll (header.coding sequenceSet pictureSet) opened = .ok written ∧
        header.toUnit sequenceSet pictureSet data = .ok unit ∧
        ofUnit sequences pictures unit = .ok { header with
          sizeInBits := BitSink.bitsWritten written - BitSink.bitsWritten opened } := by
  obtain ⟨opened, written, opened_eq, written_eq, openedBits, writtenBits⟩ :=
    CodedField.exists_writeAll_parts consistent.exact
  have reads := readsBack_decoder hasPictureSet hasSequenceSet consistent
    (BitSink.bitsWritten written)
  rw [← openedBits] at reads
  obtain ⟨unit, unit_eq, decoded⟩ := Decoder.decodeUnit_toUnit reads consistent.exact
    writtenBits.symm (CodedField.fits_of_mem_map_flag data)
  exact ⟨opened, written, unit, opened_eq, written_eq, unit_eq, decoded⟩

/-! ### A header with several lists -/

/-- A sequence of frames of 1280 by 720 samples. -/
def sampleSequence : SequenceParameterSet where
  profileIdc := 100
  constraintFlags := 0
  levelIdc := 32
  id := 0
  format := .standard
  log2MaxFrameNumMinus4 := 0
  pictureOrder := .lowBits 4
  maxReferenceFrames := 2
  frameNumGapsAllowed := false
  widthInMacroblocksMinus1 := 79
  heightInMapUnitsMinus1 := 44
  framesOnly := true
  adaptiveFrameField := false
  direct8x8Inference := true
  cropping := none
  usability := none
  bytesBeforeUsability := 10
  bytesRead := 10

/-- A set for pictures of that sequence with explicit weights. -/
def samplePicture : PictureParameterSet where
  id := 0
  sequenceId := 0
  arithmeticCoding := true
  bottomFieldOrderPresent := false
  sliceGroups := none
  defaultActiveList0Minus1 := 15
  defaultActiveList1Minus1 := 0
  weightedPrediction := true
  weightedBipredictionIdc := 0
  initialQpMinus26 := 0
  initialQsMinus26 := 0
  chromaQpOffset := -2
  deblockingControlPresent := true
  constrainedIntraPrediction := false
  redundantPictureCountPresent := false
  transform := { transform8x8 := true, scalingLists := none, secondChromaQpOffset := -2 }

/-- The header of a slice that modifies a reference list, has weights and drops a picture. -/
def sampleHeader : SliceHeader where
  unit := { refIdc := 2, unitType := .slice }
  firstMacroblock := 0
  typeCode := 5
  sliceType := .p
  pictureSetId := 0
  colourPlane := 0
  frameNum := 1
  pictureStructure := .frame
  idrPictureId := 0
  pictureOrder := { lowBits := 2 }
  redundantPictureCount := 0
  directSpatial := false
  activeReferences := { overridden := true, list0Minus1 := 0, list1Minus1 := 0 }
  list0Modification := some [.subtract 0]
  list1Modification := none
  weights := some {
    lumaLog2Denominator := 5
    chromaLog2Denominator := 5
    list0 := [{ luma := some { factor := 3, offset := -1 }, chroma := none }]
    list1 := [] }
  marking := some (.adaptive [.dropShortTerm 0])
  arithmeticInitIdc := 1
  qpDelta := -3
  switchForSp := false
  qsDelta := 0
  deblocking := { disableIdc := 1 }
  sliceGroupChangeCycle := 0
  sizeInBits := 66

theorem consistent_sample : sampleHeader.ConsistentWith sampleSequence samplePicture where
  hasSliceHeader := rfl
  exact := by decide +kernel
  typeCode := rfl
  colourPlane _ := rfl
  pictureStructure _ := rfl
  idrPictureId _ := rfl
  pictureOrder := ⟨rfl, rfl, fun _ => rfl⟩
  redundantPictureCount _ := rfl
  directSpatial _ := rfl
  activeReferences := ⟨by decide, by decide, fun _ => rfl⟩
  list0Modification := by decide
  list1Modification _ := rfl
  hasWeights := rfl
  weights := by
    rintro weights ⟨⟩
    exact ⟨by decide, rfl, by decide, fun _ => rfl, by decide⟩
  hasMarking := rfl
  marking := by
    rintro marking ⟨⟩
    rfl
  arithmeticInitIdc := by decide
  switchForSp _ := rfl
  qsDelta _ := rfl
  noDeblocking := by decide
  deblocking _ := ⟨rfl, rfl⟩
  sliceGroupChangeCycle _ := rfl

/-- The sample header is written and decoded with sets that are decoded themselves. -/
theorem ofUnit_written_slice_sample :
    let sequences := IdTable.empty.insert 0 sampleSequence
    let pictures := IdTable.empty.insert 0 samplePicture
    (SequenceParameterSet.ofUnit
        [0x67, 0x64, 0x00, 0x20, 0xac, 0xca, 0xc0, 0x50, 0x05, 0xb9]).toOption =
          some sampleSequence ∧
      (PictureParameterSet.ofUnit sequences [0x68, 0xe8, 0x43, 0x32, 0xc8, 0xb0]).toOption =
        some samplePicture ∧
      ∃ (opened written : EscapedWriter) (unit : List UInt8),
        CodedField.writeAll sampleHeader.unit.coding {} = .ok opened ∧
          CodedField.writeAll (sampleHeader.coding sampleSequence samplePicture) opened =
            .ok written ∧
          sampleHeader.toUnit sampleSequence samplePicture [true, false, true] = .ok unit ∧
          ofUnit sequences pictures unit = .ok { sampleHeader with
            sizeInBits := BitSink.bitsWritten written - BitSink.bitsWritten opened } := by
  refine ⟨by decide +kernel, by decide +kernel, ?_⟩
  exact ofUnit_written_slice rfl rfl consistent_sample [true, false, true]

end SliceHeader

end CodedVideo.Avc
