import CodedVideo.Proofs.Avc.PictureReadBack
import CodedVideo.Proofs.Avc.SequenceGrammar
import CodedVideo.Proofs.Avc.SequenceReadBack
import CodedVideo.Proofs.Decoder.Spends

/-!
# Lists in AVC units

A list whose length is coded in front of it has that length, and each of its items costs at least
one bit. So do the entries of a list that ends in band. All lists of a unit together are therefore no
longer than the unit has bits, although no count is checked against a limit.

Main statements: `SequenceParameterSet.listsWithin_of_ofUnit`,
`PictureParameterSet.listsWithin_of_ofUnit`, `SliceHeader.listsWithin_of_ofUnit`.
-/

namespace CodedVideo.Avc

open Decoder (Spends Yields)

/-! ## Sequence parameter sets -/

/-- The offsets of the reference pictures in an expected cycle of counts. -/
def PictureOrder.referenceOffsets : PictureOrder → List Int
  | cycle _ _ _ referenceOffsets => referenceOffsets
  | lowBits _ | decodingOrder _ => []

/-- The buffer models that are coded. -/
def VideoUsability.bufferModels (usability : VideoUsability) : List BufferModel :=
  usability.nalBufferModel.toList ++ usability.vclBufferModel.toList

/-- The number of schedules of all buffer models. -/
def VideoUsability.scheduleCount (usability : VideoUsability) : Nat :=
  (usability.bufferModels.flatMap (·.schedules)).length

theorem VideoUsability.scheduleCount_eq (usability : VideoUsability) :
    usability.scheduleCount = usability.nalBufferModel.elim 0 (·.schedules.length) +
      usability.vclBufferModel.elim 0 (·.schedules.length) := by
  rw [scheduleCount, bufferModels]
  cases usability.nalBufferModel <;> cases usability.vclBufferModel <;> simp

namespace SequenceParameterSet

/-- The buffer models that are coded. -/
def bufferModels (set : SequenceParameterSet) : List BufferModel :=
  set.usability.elim [] VideoUsability.bufferModels

/-- The number of entries in the lists of the set. -/
def listedCount (set : SequenceParameterSet) : Nat :=
  set.pictureOrder.referenceOffsets.length + (set.bufferModels.flatMap (·.schedules)).length

/-- Each buffer model has as many schedules as it says, and the data has a bit for each entry of a
list. -/
structure ListsWithin (set : SequenceParameterSet) (bitCount : Nat) : Prop where
  bufferModels : ∀ model ∈ set.bufferModels, model.Consistent
  listedCount_le : set.listedCount ≤ bitCount

end SequenceParameterSet

theorem BufferSchedule.spends_decoder : Spends decoder fun _ => 1 :=
  Spends.opening Spends.unsigned

namespace BufferModel

theorem yields_consistent : Yields decoder Consistent := by
  refine Yields.within ?_
  iterate 3 refine Yields.behind fun _ => ?_
  refine Yields.bind (Yields.replicate _ _) fun schedules length_eq => ?_
  iterate 4 refine Yields.behind fun _ => ?_
  exact Yields.done length_eq

theorem spends_decoder : Spends decoder (·.schedules.length) := by
  refine Spends.within ?_
  iterate 3 refine Spends.behind fun _ => ?_
  refine Spends.bind (BufferSchedule.spends_decoder.listOf _) fun schedules => ?_
  iterate 4 refine Spends.behind fun _ => ?_
  exact Spends.done (Nat.sub_self _)

end BufferModel

namespace VideoUsability

theorem yields_consistent : Yields decoder fun usability =>
    ∀ model ∈ usability.bufferModels, model.Consistent := by
  refine Yields.within ?_
  iterate 4 refine Yields.behind fun _ => ?_
  refine Yields.bind (Yields.optional BufferModel.yields_consistent) fun nalModel nalHolds => ?_
  refine Yields.behind fun _ => ?_
  refine Yields.bind (Yields.optional BufferModel.yields_consistent) fun vclModel vclHolds => ?_
  iterate 4 refine Yields.behind fun _ => ?_
  refine Yields.done fun model isCoded => ?_
  rcases List.mem_append.mp isCoded with isNal | isVcl
  · exact nalHolds model (Option.mem_toList.mp isNal)
  · exact vclHolds model (Option.mem_toList.mp isVcl)

theorem spends_decoder : Spends decoder scheduleCount := by
  refine Spends.within ?_
  iterate 4 refine Spends.behind fun _ => ?_
  refine Spends.bind (Spends.optional BufferModel.spends_decoder) fun nalModel => ?_
  refine Spends.behind fun _ => ?_
  refine Spends.bind (Spends.optional BufferModel.spends_decoder) fun vclModel => ?_
  iterate 4 refine Spends.behind fun _ => ?_
  refine Spends.done ?_
  simp only [scheduleCount_eq]
  omega

end VideoUsability

theorem PictureOrder.spends_decoder : Spends decoder (·.referenceOffsets.length) := by
  refine Spends.behind fun kind => ?_
  split
  · exact Spends.behind fun _ => Spends.done rfl
  · iterate 4 refine Spends.behind fun _ => ?_
    refine Spends.bind (Spends.signed.listOf _) fun offsets => ?_
    exact Spends.done (Nat.sub_self _)
  · exact Spends.done rfl

namespace SequenceParameterSet

theorem spends_fields : Spends fields (·.1.pictureOrder.referenceOffsets.length) := by
  rw [fields]
  iterate 6 refine Spends.behind fun _ => ?_
  refine Spends.bind PictureOrder.spends_decoder fun pictureOrder => ?_
  iterate 10 refine Spends.behind fun _ => ?_
  exact Spends.done (Nat.sub_self _)

theorem yields_unitDecoder : Yields unitDecoder fun set =>
    ∀ model ∈ set.bufferModels, model.Consistent := by
  have content : Yields contentDecoder fun set =>
      ∀ model ∈ set.bufferModels, model.Consistent := by
    iterate 2 refine Yields.behind fun _ => ?_
    refine Yields.bind (Yields.within (Yields.optional VideoUsability.yields_consistent))
      fun usability consistent => Yields.done ?_
    cases usability with
    | none => exact List.forall_mem_nil _
    | some usability => exact consistent usability rfl
  exact Yields.bind content fun _ consistent => Yields.behind fun _ => Yields.done consistent

theorem spends_unitDecoder : Spends unitDecoder listedCount := by
  have content : Spends contentDecoder listedCount := by
    refine Spends.behind fun _ => ?_
    refine Spends.bind (Spends.within spends_fields) fun ⟨set, usabilityPresent⟩ => ?_
    refine Spends.bind (Spends.within (Spends.optional VideoUsability.spends_decoder))
      fun usability => Spends.done ?_
    change set.pictureOrder.referenceOffsets.length + _ -
      set.pictureOrder.referenceOffsets.length - _ = 0
    rw [Nat.add_sub_cancel_left]
    cases usability with
    | none => rfl
    | some usability => exact Nat.sub_self _
  exact Spends.bind content fun _ => Spends.behind fun _ => Spends.done (Nat.sub_self _)

theorem listsWithin_of_ofUnit {unit : List UInt8} {set : SequenceParameterSet}
    (isDecoded : ofUnit unit = .ok set) : set.ListsWithin (8 * unit.length) := by
  have unit_eq : unitDecoder.decodeUnit unit = .ok set.withoutByteCounts := by
    rw [← map_withoutByteCounts_ofUnit, isDecoded]
    rfl
  have consistent := yields_unitDecoder.of_decodeUnit unit_eq
  have paid := spends_unitDecoder.of_decodeUnit unit_eq
  exact { bufferModels := consistent, listedCount_le := paid }

end SequenceParameterSet

/-! ## Picture parameter sets -/

/-- The number of entries in the lists of a map; a rectangle has one for each of its two corners. -/
def SliceGroupMap.listedCount : SliceGroupMap → Nat
  | interleaved runLengthsMinus1 => runLengthsMinus1.length
  | foreground rectangles => rectangles.length * 2
  | explicit groups => groups.length
  | dispersed | changing _ _ _ => 0

/-- The lists of a map of slice groups have the lengths that the number of groups asks for, and the
data has a bit for each entry of a list. -/
structure PictureParameterSet.ListsWithin (set : PictureParameterSet) (bitCount : Nat) : Prop where
  sliceGroups : ∀ groups ∈ set.sliceGroups, groups.map.ConsistentWith groups.countMinus1
  listedCount_le : ∀ groups ∈ set.sliceGroups, groups.map.listedCount ≤ bitCount

theorem GroupRectangle.spends_decoder : Spends decoder fun _ => 2 :=
  Spends.bind Spends.unsigned fun _ => Spends.bind Spends.unsigned fun _ => Spends.done rfl

/-- The number of a group takes a bit where there are several groups. -/
theorem ceilLog2_saturate_pos {countMinus1 : Nat} (several : countMinus1 ≠ 0) :
    1 ≤ ceilLog2 (saturate (countMinus1 + 1)) := by
  have notSingle : ¬ saturate (countMinus1 + 1) ≤ 1 := by
    rw [saturate, sizeLimit]
    omega
  rw [ceilLog2, if_neg notSingle]
  exact Nat.le_add_left 1 _

theorem spends_groupNumber {countMinus1 : Nat} (several : countMinus1 ≠ 0) :
    Spends (Decoder.bits (ceilLog2 (saturate (countMinus1 + 1)))) fun _ => 1 :=
  (Spends.bits _).weaken fun _ => ceilLog2_saturate_pos several

namespace SliceGroupMap

theorem yields_consistent (countMinus1 : Nat) :
    Yields (decoder countMinus1) (·.ConsistentWith countMinus1) := by
  have changing (growth : GroupGrowth) :
      Yields (changingDecoder growth) (·.ConsistentWith countMinus1) :=
    Yields.behind fun _ => Yields.behind fun _ => Yields.done trivial
  refine Yields.behind fun code => ?_
  split
  · exact Yields.bind (Yields.replicate _ _) fun _ length_eq => Yields.done length_eq
  · exact Yields.done trivial
  · exact Yields.bind (Yields.replicate _ _) fun _ length_eq => Yields.done length_eq
  · exact changing .boxOut
  · exact changing .rasterScan
  · exact changing .wipe
  · refine Yields.behind fun sizeMinus1 => ?_
    refine Yields.bind (Yields.replicate _ _) fun groups length_eq => Yields.done ?_
    exact List.ne_nil_of_length_eq_add_one length_eq
  · exact Yields.abort

theorem spends_decoder {countMinus1 : Nat} (several : countMinus1 ≠ 0) :
    Spends (decoder countMinus1) listedCount := by
  have changing (growth : GroupGrowth) : Spends (changingDecoder growth) listedCount :=
    Spends.behind fun _ => Spends.behind fun _ => Spends.done rfl
  refine Spends.behind fun code => ?_
  split
  · exact Spends.bind (Spends.unsigned.listOf _) fun _ => Spends.done (Nat.sub_self _)
  · exact Spends.done rfl
  · exact Spends.bind (GroupRectangle.spends_decoder.replicate _) fun _ =>
      Spends.done (Nat.sub_self _)
  · exact changing .boxOut
  · exact changing .rasterScan
  · exact changing .wipe
  · refine Spends.behind fun sizeMinus1 => ?_
    exact Spends.bind ((spends_groupNumber several).listOf _) fun _ => Spends.done (Nat.sub_self _)
  · exact Spends.abort

end SliceGroupMap

namespace SliceGroups

theorem yields_consistent : Yields decoder fun groups? =>
    ∀ groups ∈ groups?, groups.map.ConsistentWith groups.countMinus1 := by
  refine Yields.behind fun countMinus1 => ?_
  split
  · exact Yields.done nofun
  · refine Yields.bind (SliceGroupMap.yields_consistent countMinus1) fun map consistent => ?_
    refine Yields.done ?_
    rintro _ ⟨⟩
    exact consistent

theorem spends_decoder : Spends decoder fun groups? => groups?.elim 0 (·.map.listedCount) := by
  refine Spends.behind fun countMinus1 => ?_
  split
  · exact Spends.done rfl
  · next several =>
    exact Spends.bind (SliceGroupMap.spends_decoder several) fun _ => Spends.done (Nat.sub_self _)

end SliceGroups

namespace PictureParameterSet

variable (sequences : IdTable SequenceParameterSet)

theorem yields_decoder : Yields (decoder sequences) fun set =>
    ∀ groups ∈ set.sliceGroups, groups.map.ConsistentWith groups.countMinus1 := by
  have fieldsYield : Yields (fields sequences) fun set =>
      ∀ groups ∈ set.sliceGroups, groups.map.ConsistentWith groups.countMinus1 := by
    iterate 4 refine Yields.behind fun _ => ?_
    refine Yields.bind SliceGroups.yields_consistent fun sliceGroups consistent => ?_
    iterate 12 refine Yields.behind fun _ => ?_
    exact Yields.done consistent
  iterate 2 refine Yields.behind fun _ => ?_
  refine Yields.bind (Yields.within fieldsYield) fun set consistent => ?_
  exact Yields.behind fun _ => Yields.done consistent

theorem spends_decoder : Spends (decoder sequences) fun set =>
    set.sliceGroups.elim 0 (·.map.listedCount) := by
  have fieldsSpend : Spends (fields sequences) fun set =>
      set.sliceGroups.elim 0 (·.map.listedCount) := by
    iterate 4 refine Spends.behind fun _ => ?_
    refine Spends.bind SliceGroups.spends_decoder fun sliceGroups => ?_
    iterate 12 refine Spends.behind fun _ => ?_
    exact Spends.done (Nat.sub_self _)
  iterate 2 refine Spends.behind fun _ => ?_
  refine Spends.bind (Spends.within fieldsSpend) fun set => ?_
  exact Spends.behind fun _ => Spends.done (Nat.sub_self _)

variable {sequences}

theorem listsWithin_of_ofUnit {unit : List UInt8} {set : PictureParameterSet}
    (isDecoded : ofUnit sequences unit = .ok set) : set.ListsWithin (8 * unit.length) where
  sliceGroups := (yields_decoder sequences).of_decodeUnit isDecoded
  listedCount_le groups isThere := by
    have paid := (spends_decoder sequences).of_decodeUnit isDecoded
    rw [Option.mem_def] at isThere
    rwa [isThere] at paid

end PictureParameterSet

/-! ## Slice headers -/

/-- The number of weights in both lists. -/
def WeightTable.weightCount (weights : WeightTable) : Nat :=
  weights.list0.length + weights.list1.length

/-- There is a weight for each reference picture in use. -/
structure WeightTable.Covers (weights : WeightTable) (bidirectional : Bool)
    (active : ActiveReferences) : Prop where
  list0 : weights.list0.length = active.list0Minus1 + 1
  list1 : bidirectional = true → weights.list1.length = active.list1Minus1 + 1
  noList1 : bidirectional = false → weights.list1 = []

/-- The number of explicit operations. -/
def ReferenceMarking.operationCount : ReferenceMarking → Nat
  | adaptive operations => operations.length
  | refresh _ _ | slidingWindow => 0

namespace SliceHeader

/-- The number of entries in the lists of the header. -/
def listedCount (header : SliceHeader) : Nat :=
  header.list0Modification.elim 0 List.length + header.list1Modification.elim 0 List.length +
    header.weights.elim 0 WeightTable.weightCount +
    header.marking.elim 0 ReferenceMarking.operationCount

/-- There are as many weights as reference pictures in use, and the data has a bit for each entry of
a list. -/
structure ListsWithin (header : SliceHeader) (bitCount : Nat) : Prop where
  weights : ∀ weights ∈ header.weights,
    weights.Covers header.sliceType.isBidirectional header.activeReferences
  listedCount_le : header.listedCount ≤ bitCount

theorem spends_predictionWeight (chromaCoded : Bool) :
    Spends (predictionWeightDecoder chromaCoded) fun _ => 1 :=
  Spends.opening Spends.flag

theorem yields_weightTable (chromaCoded bidirectional : Bool) (active : ActiveReferences) :
    Yields (weightTableDecoder chromaCoded bidirectional active)
      (·.Covers bidirectional active) := by
  iterate 2 refine Yields.behind fun _ => ?_
  refine Yields.bind (Yields.replicate _ _) fun list0 list0_length => ?_
  refine Yields.bind (Yields.whenElse_cases (Yields.replicate _ _)) fun list1 list1_cases => ?_
  exact Yields.done ⟨list0_length, list1_cases.1, list1_cases.2⟩

theorem spends_weightTable (chromaCoded bidirectional : Bool) (active : ActiveReferences) :
    Spends (weightTableDecoder chromaCoded bidirectional active) WeightTable.weightCount := by
  have weightSpends := spends_predictionWeight chromaCoded
  iterate 2 refine Spends.behind fun _ => ?_
  refine Spends.bind (weightSpends.listOf _) fun list0 => ?_
  refine Spends.bind (Spends.whenElse (weightSpends.listOf _) List.length_nil) fun list1 => ?_
  refine Spends.done ?_
  simp only [WeightTable.weightCount]
  omega

theorem spends_listModification :
    Spends listModificationDecoder fun steps? => steps?.elim 0 List.length :=
  Spends.behind fun _ => Spends.optional (Spends.seriesOf listModificationEntry)

theorem spends_marking (idr : Bool) :
    Spends (markingDecoder idr) ReferenceMarking.operationCount := by
  rw [markingDecoder]
  split
  · exact Spends.behind fun _ => Spends.behind fun _ => Spends.done rfl
  · refine Spends.behind fun isAdaptive => ?_
    split
    · exact Spends.bind (Spends.seriesOf memoryOperationEntry) fun _ =>
        Spends.done (Nat.sub_self _)
    · exact Spends.done rfl

variable (sequences : IdTable SequenceParameterSet) (pictures : IdTable PictureParameterSet)

theorem yields_decoder : Yields (decoder sequences pictures) fun header =>
    ∀ weights ∈ header.weights,
      weights.Covers header.sliceType.isBidirectional header.activeReferences := by
  iterate 2 refine Yields.behind fun _ => ?_
  refine Yields.within ?_
  rw [fields]
  iterate 16 refine Yields.behind fun _ => ?_
  refine Yields.bind (Yields.optional (yields_weightTable _ _ _)) fun weights covers => ?_
  iterate 8 refine Yields.behind fun _ => ?_
  exact Yields.done covers

theorem spends_decoder : Spends (decoder sequences pictures) listedCount := by
  iterate 2 refine Spends.behind fun _ => ?_
  refine Spends.within ?_
  rw [fields]
  iterate 14 refine Spends.behind fun _ => ?_
  refine Spends.bind (Spends.whenElse spends_listModification rfl) fun list0Modification => ?_
  refine Spends.bind (Spends.whenElse spends_listModification rfl) fun list1Modification => ?_
  refine Spends.bind (Spends.optional (spends_weightTable _ _ _)) fun weights => ?_
  refine Spends.bind (Spends.optional (spends_marking _)) fun marking => ?_
  iterate 7 refine Spends.behind fun _ => ?_
  refine Spends.done ?_
  simp only [listedCount]
  omega

variable {sequences pictures}

theorem listsWithin_of_ofUnit {unit : List UInt8} {header : SliceHeader}
    (isDecoded : ofUnit sequences pictures unit = .ok header) :
    header.ListsWithin (8 * unit.length) where
  weights := (yields_decoder sequences pictures).of_decodeUnit isDecoded
  listedCount_le := (spends_decoder sequences pictures).of_decodeUnit isDecoded

end SliceHeader

end CodedVideo.Avc
