import CodedVideo.Proofs.Hevc.SequenceReadBack

/-!
# Reading HEVC video parameter sets back

A set is consistent if its values lie in the ranges that a reader asks for, each field that it codes
has the width or the range of its form, lists have the lengths that are coded or known, layer sets
have no layers but those that are coded, and what is not coded has the value that a reader assumes.
Such a set, written field by field, is decoded to itself, whatever extension data follows.

Main statement: `VideoParameterSet.ofUnit_written_video`.
-/

namespace CodedVideo.Hevc

open CodedField (flagged onlyIf present)
open Decoder (Decodes ReadsBack)

namespace VideoParameterSet

/-! ## Layer sets -/

/-- The layers up to the greatest one are read back from their flags. -/
theorem decodes_layerSetCoding {maxLayerId layers : Nat}
    (layers_lt : layers < 1 <<< (maxLayerId + 1)) :
    Decodes (layerSetDecoder maxLayerId) (layerSetCoding maxLayerId layers) layers := by
  have length_eq : ((List.range (maxLayerId + 1)).map layers.testBit).length = maxLayerId + 1 := by
    rw [List.length_map, List.length_range]
  have flagsRead := Decodes.replicate_map length_eq Decodes.flag
  have layers_eq : Bits.toNat ((List.range (maxLayerId + 1)).map layers.testBit).reverse =
      layers := by
    rw [Bits.reverse_map_testBit_range, Bits.toNat_ofNat, Nat.mod_eq_of_lt layers_lt]
  rw [List.map_map] at flagsRead
  intro start stop
  refine ReadsBack.bind_last flagsRead ?_
  rw [layers_eq]
  exact ReadsBack.done layers

end VideoParameterSet

/-! ## Buffer models -/

/-- The buffer model fits its place: the first one has what all sub-layers share. -/
structure LayerSetBufferModel.ConsistentAt (bufferModel : LayerSetBufferModel)
    (maxSubLayersMinus1 index : Nat) : Prop where
  sharedPresent : index = 0 → bufferModel.sharedPresent = true
  model : bufferModel.model.ConsistentWith bufferModel.sharedPresent maxSubLayersMinus1

namespace VideoParameterSet

theorem decodes_bufferModelCoding {bufferModel : LayerSetBufferModel}
    {maxSubLayersMinus1 index : Nat}
    (consistent : bufferModel.ConsistentAt maxSubLayersMinus1 index) :
    Decodes (bufferModelDecoder maxSubLayersMinus1 index) (bufferModel.coding index)
      bufferModel := by
  have isFirst (notCoded : (index != 0) = false) : bufferModel.sharedPresent = true :=
    consistent.sharedPresent (bne_eq_false_iff_eq.mp notCoded)
  simp only [LayerSetBufferModel.coding, List.cons_append, List.nil_append]
  intro start stop
  refine ReadsBack.bind (.unsigned bufferModel.layerSet) fun mid => ?_
  refine ReadsBack.bind (.whenElse (.flag bufferModel.sharedPresent) isFirst) fun mid => ?_
  exact ReadsBack.bind_last (BufferModel.decodes_coding consistent.model) (.done bufferModel)

theorem decodes_bufferModelsCoding {bufferModels : List LayerSetBufferModel}
    {maxSubLayersMinus1 layerSetCount : Nat} (length_le : bufferModels.length ≤ layerSetCount)
    (consistent : ∀ entry ∈ bufferModels.zipIdx, entry.1.ConsistentAt maxSubLayersMinus1 entry.2) :
    Decodes (bufferModelsDecoder maxSubLayersMinus1 layerSetCount)
      (bufferModelsCoding bufferModels) bufferModels := by
  intro start stop
  refine ReadsBack.bind (.unsigned bufferModels.length) fun mid => ?_
  refine ReadsBack.bind_first (.require (decide_eq_true length_le)) ?_
  exact Decodes.timesIndexed (fun bufferModel index => bufferModel.coding index) rfl
    (fun entry isEntry => decodes_bufferModelCoding (consistent entry isEntry)) mid stop

/-! ## Whole sets -/

/-- The set can be written: its values lie in the ranges that a reader asks for, each field that is
coded has the width or the range of its form, the parts are consistent, and there are buffer models
only behind a clock, no more than layer sets. -/
structure Consistent (set : VideoParameterSet) : Prop where
  exact : ∀ field ∈ set.coding, field.Exact
  profileTierLevel : set.profileTierLevel.ConsistentWith true set.maxSubLayersMinus1
  ordering : SubLayerOrdering.ListConsistent set.orderingOfEach set.maxSubLayersMinus1 set.ordering
  layerSets_length : set.layerSets.length ≤ maxLayerSetsMinus1
  layerSets : ∀ layers ∈ set.layerSets, layers < 1 <<< (set.maxLayerId + 1)
  noBufferModels : set.timing = none → set.bufferModels = []
  bufferModels_length : set.bufferModels.length ≤ set.layerSets.length + 1
  bufferModels : ∀ entry ∈ set.bufferModels.zipIdx,
    entry.1.ConsistentAt set.maxSubLayersMinus1 entry.2

theorem decodes_coding {set : VideoParameterSet} (consistent : set.Consistent) :
    Decodes fields set.coding set := by
  have isReserved : (0xffff == 0xffff) = true := rfl
  have noModels (notCoded : set.timing.isSome = false) : set.bufferModels = [] :=
    consistent.noBufferModels (Option.not_isSome_iff_eq_none.mp (Bool.eq_false_iff.mp notCoded))
  simp only [coding, SubLayerOrdering.listCoding, List.append_assoc, List.cons_append,
    List.nil_append]
  intro start stop
  refine ReadsBack.bind (.bits set.id 4) fun mid => ?_
  refine ReadsBack.bind (.flag set.baseLayerInternal) fun mid => ?_
  refine ReadsBack.bind (.flag set.baseLayerAvailable) fun mid => ?_
  refine ReadsBack.bind (.bits set.maxLayersMinus1 6) fun mid => ?_
  refine ReadsBack.bind (.bits set.maxSubLayersMinus1 3) fun mid => ?_
  refine ReadsBack.bind (.flag set.temporalIdNesting) fun mid => ?_
  refine ReadsBack.bind (.bits 0xffff 16) fun mid => ?_
  refine ReadsBack.bind_first (.require isReserved) ?_
  refine ReadsBack.bind (ProfileTierLevel.decodes_coding consistent.profileTierLevel) fun mid => ?_
  refine ReadsBack.bind (.flag set.orderingOfEach) fun mid => ?_
  refine ReadsBack.bind consistent.ordering.decodes fun mid => ?_
  refine ReadsBack.bind (.bits set.maxLayerId 6) fun mid => ?_
  refine ReadsBack.bind (.boundedUnsigned consistent.layerSets_length) fun mid => ?_
  refine ReadsBack.bind (.replicate rfl fun layers isSet =>
    decodes_layerSetCoding (consistent.layerSets layers isSet)) fun mid => ?_
  refine ReadsBack.optionalBehindFlag_bind (fun timing _ => timing.decodes_coding) fun mid => ?_
  refine ReadsBack.bind (.whenElse (decodes_bufferModelsCoding consistent.bufferModels_length
    consistent.bufferModels) noModels) fun mid => ?_
  exact ReadsBack.bind_last (.flag set.extended) (.done set)

/-- The flag that says whether extension data follows can be written either way. -/
theorem Consistent.withExtended {set : VideoParameterSet} (consistent : set.Consistent)
    (extended : Bool) : ({ set with extended } : VideoParameterSet).Consistent := by
  have fieldsExact := consistent.exact
  rw [coding, List.forall_mem_append] at fieldsExact
  have flagExact : ∀ field ∈ [CodedField.flag extended], field.Exact :=
    List.forall_mem_singleton.mpr ⟨trivial, rfl⟩
  exact { consistent with exact := List.forall_mem_append.mpr ⟨fieldsExact.1, flagExact⟩ }

/-- A consistent set is written to a unit, and the unit is decoded to that set. Where the set has
extensions, it is decoded whatever data follows, and otherwise the trailing bits follow. -/
theorem ofUnit_written_video {set : VideoParameterSet} (consistent : set.Consistent)
    {layerId temporalIdPlus1 : Nat} (layerId_lt : layerId < 64)
    (temporalIdPlus1_ne : temporalIdPlus1 ≠ 0) (temporalIdPlus1_lt : temporalIdPlus1 < 8)
    (extension : List Bool) :
    ∃ unit, set.toUnit layerId temporalIdPlus1 extension = .ok unit ∧ ofUnit unit = .ok set := by
  have code_lt : NalUnitType.vps.code < 64 := by decide
  have reads : Decodes (setDecoder .vps structureName fields)
      (({ unitType := .vps, layerId, temporalIdPlus1 } : NalHeader).coding ++ set.coding) set :=
    decodes_setDecoder rfl temporalIdPlus1_ne (decodes_coding consistent)
  have exact : ∀ field ∈
      ({ unitType := .vps, layerId, temporalIdPlus1 } : NalHeader).coding ++ set.coding,
      field.Exact :=
    List.forall_mem_append.mpr
      ⟨NalHeader.exact_coding code_lt layerId_lt temporalIdPlus1_lt, consistent.exact⟩
  simp only [ofUnit, decoder_eq, toUnit]
  refine decodeUnit_written reads exact structureName ?_ ?_ extension
  · intro isExtended
    rw [isExtended]
    rfl
  · intro notExtended
    rw [notExtended]
    rfl

/-! ### A set with all parts -/

/-- A model that shares nothing, and only has the rates of three sub-layers. -/
def ratesOnly : BufferModel where
  subLayers := List.replicate 3
    { fixedRateInGeneral := true
      fixedRateInSequence := true
      elementalDurationMinus1 := 9
      lowDelay := false
      scheduleCountMinus1 := 31
      nal := []
      vcl := [] }

/-- A set of three sub-layers with all layers that there can be, in which every optional part is
there. -/
def fullSample : VideoParameterSet where
  id := 15
  baseLayerInternal := true
  baseLayerAvailable := true
  maxLayersMinus1 := 63
  maxSubLayersMinus1 := 2
  temporalIdNesting := true
  profileTierLevel := SequenceParameterSet.fullSample.profileTierLevel
  orderingOfEach := false
  ordering := List.replicate 3
    { maxStoredPicturesMinus1 := 4, maxReorderedPictures := 2, maxLatencyIncreasePlus1 := 0 }
  maxLayerId := 63
  layerSets := [0xffffffffffffffff, 0, 0x8000000000000001]
  timing := some { unitsInTick := 1001, timeScale := 60000, ticksPerPictureMinus1 := some 0 }
  bufferModels := [
    { layerSet := 0, sharedPresent := true, model := SequenceParameterSet.sampleBufferModel },
    { layerSet := 3, sharedPresent := true, model := SequenceParameterSet.sampleBufferModel },
    { layerSet := 1, sharedPresent := false, model := ratesOnly }]
  extended := false

theorem consistent_ratesOnly : ratesOnly.ConsistentWith false 2 where
  shared _ := rfl
  notShared _ := rfl
  subLayers_length := rfl
  subLayers subLayer isThere := by
    cases List.eq_of_mem_replicate isThere
    have noSchedules (unitRemoval : Bool) :
        ∀ schedule ∈ [], BufferSchedule.ConsistentWith schedule unitRemoval :=
      List.forall_mem_nil _
    refine ⟨by decide, by decide, by decide, by decide, by decide, ?_, ?_⟩
    · exact ⟨by decide, fun _ => rfl, noSchedules _⟩
    · exact ⟨by decide, fun _ => rfl, noSchedules _⟩

theorem consistent_fullSample : fullSample.Consistent where
  exact := by decide +kernel
  profileTierLevel := ⟨rfl, rfl⟩
  ordering := ⟨rfl, by decide⟩
  layerSets_length := by decide
  layerSets := by decide
  noBufferModels notThere := by cases notThere
  bufferModels_length := by decide
  bufferModels := by
    simp only [fullSample, List.zipIdx_cons, List.zipIdx_nil, List.forall_mem_cons]
    refine ⟨⟨fun _ => rfl, ?_⟩, ⟨fun _ => rfl, ?_⟩, ⟨fun isFirst => ?_, ?_⟩, List.forall_mem_nil _⟩
    · exact SequenceParameterSet.consistent_sampleBufferModel
    · exact SequenceParameterSet.consistent_sampleBufferModel
    · cases isFirst
    · exact consistent_ratesOnly

/-- The sample with extension data behind it. -/
def extendedSample : VideoParameterSet :=
  { fullSample with extended := true }

/-- The sample is written and decoded, and so is the extended one with data behind it. -/
theorem ofUnit_written_video_samples :
    (∃ unit, fullSample.toUnit 0 1 [] = .ok unit ∧ ofUnit unit = .ok fullSample) ∧
      ∃ unit, extendedSample.toUnit 63 7 [true, false, true] = .ok unit ∧
        ofUnit unit = .ok extendedSample := by
  constructor
  · exact ofUnit_written_video consistent_fullSample (by decide) (by decide) (by decide) []
  · have consistent : extendedSample.Consistent := consistent_fullSample.withExtended true
    exact ofUnit_written_video consistent (by decide) (by decide) (by decide) [true, false, true]

end VideoParameterSet

end CodedVideo.Hevc
