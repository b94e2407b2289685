import CodedVideo.Proofs.CutShort
import CodedVideo.Proofs.Decoder.Spells
import CodedVideo.Proofs.Hevc.VideoReadBack

/-!
# Spelling of HEVC video parameter sets

A unit that is decoded to a video parameter set holds the fields of that set, one right behind the
other, unless it is so long that the zeros of a code are not counted. Only the flags of missing
sub-layers, which are reserved, are not part of the set. So a set that was decoded is consistent, and
the buffer model of each layer set is read from the fields that it codes itself: what it does not code
has its default, whatever the model in front of it codes.

Main statements: `VideoParameterSet.consistent_and_spelledIn` and
`VideoParameterSet.ofUnit_ownBufferModels`.
-/

namespace CodedVideo.Hevc

open CodedField (codeAll flagged onlyIf present)
open Decoder (Spells)

/-! ## Profiles, tiers and levels -/

theorem ProfileBlock.spells_decoder :
    Spells decoder fun block fields => fields = block.coding := by
  refine Spells.behind (.bits 2) fun space => ?_
  refine Spells.behind .flag fun tierFlag => ?_
  refine Spells.behind (.bits 5) fun idc => ?_
  refine Spells.behind (.bits 32) fun compatibility => ?_
  exact Spells.behind (.wideBits 48) fun constraints => .done rfl

theorem SubLayerLevel.spells_presenceFlags :
    Spells ProfileTierLevel.presenceFlags fun flags fields =>
      fields = [.flag flags.1, .flag flags.2] := by
  refine Spells.behind .flag fun profilePresent => ?_
  exact Spells.behind .flag fun levelPresent => .done rfl

theorem SubLayerLevel.spells_subLayerDecoder (flags : Bool × Bool) :
    Spells (ProfileTierLevel.subLayerDecoder flags) fun subLayer fields =>
      fields = subLayer.coding ∧ subLayer.presence = flags := by
  apply Spells.bind (.optional (.unconditional ProfileBlock.spells_decoder))
  rintro profile _ ⟨rfl, profile_eq, -⟩
  apply Spells.bind (.optional (.unconditional (.bits 8)))
  rintro levelIdc _ ⟨rfl, level_eq, -⟩
  refine Spells.done ⟨?_, ?_⟩
  · rw [List.append_nil]
    rfl
  · exact Prod.ext profile_eq level_eq

namespace ProfileTierLevel

/-- The number of missing sub-layers that have flags nevertheless. -/
def reservedCount (maxSubLayersMinus1 : Nat) : Nat :=
  if maxSubLayersMinus1 = 0 then 0 else 8 - maxSubLayersMinus1

/-- The fields of a profile, tier and level, with given flags of missing sub-layers. -/
def codingWith (reserved : List Nat) (level : ProfileTierLevel) : List CodedField :=
  present ProfileBlock.coding level.profileBlock ++
    [.bits level.levelIdc 8] ++
    level.subLayers.flatMap SubLayerLevel.presenceCoding ++
    reserved.map (.bits · 2) ++
    level.subLayers.flatMap SubLayerLevel.coding

/-- The flags of missing sub-layers are written as zeros. -/
theorem coding_eq_codingWith (level : ProfileTierLevel) :
    level.coding =
      level.codingWith (List.replicate (reservedCount level.subLayers.length) 0) := by
  rw [coding, codingWith, List.map_replicate]
  cases level.subLayers with
  | nil => rfl
  | cons subLayer subLayers => rfl

/-- Zeros can stand for the flags of missing sub-layers. -/
theorem exact_coding {level : ProfileTierLevel} {reserved : List Nat}
    (exact : ∀ field ∈ level.codingWith reserved, field.Exact) :
    ∀ field ∈ level.coding, field.Exact := by
  have zeros : ∀ field ∈ (List.replicate (reservedCount level.subLayers.length) 0).map
      (CodedField.bits · 2), field.Exact := by
    rw [List.map_replicate]
    intro field isField
    rw [List.eq_of_mem_replicate isField]
    decide
  rw [coding_eq_codingWith]
  simp only [codingWith, List.append_assoc, List.forall_mem_append] at exact ⊢
  rcases exact with ⟨profileBlock, levelIdc, flags, -, subLayers⟩
  exact ⟨profileBlock, levelIdc, flags, zeros, subLayers⟩

theorem spells_reserved (maxSubLayersMinus1 : Nat) :
    Spells
      (Decoder.whenElse (maxSubLayersMinus1 != 0) []
        (Decoder.replicate (8 - maxSubLayersMinus1) (Decoder.bits 2)))
      fun reserved fields => reserved.length = reservedCount maxSubLayersMinus1 ∧
        fields = reserved.map (.bits · 2) := by
  cases maxSubLayersMinus1 with
  | zero => exact Spells.done ⟨rfl, rfl⟩
  | succ count =>
      apply (Spells.replicate (.unconditional (.bits 2)) _).weaken
      rintro reserved _ ⟨rfl, length_eq, -⟩
      rw [List.map_eq_flatMap]
      exact ⟨length_eq, rfl⟩

/-- The flags of missing sub-layers are as many as are known, and stand in front of what the
sub-layers state. -/
theorem spells_decoder (profilePresent : Bool) (maxSubLayersMinus1 : Nat) :
    Spells (decoder profilePresent maxSubLayersMinus1) fun level fields =>
      level.ConsistentWith profilePresent maxSubLayersMinus1 ∧
        ∃ reserved : List Nat, reserved.length = reservedCount maxSubLayersMinus1 ∧
          fields = level.codingWith reserved := by
  apply Spells.within
  apply Spells.bind (.optional (.unconditional ProfileBlock.spells_decoder))
  rintro profileBlock _ ⟨rfl, profileBlock_eq, -⟩
  refine Spells.behind (.bits 8) fun levelIdc => ?_
  apply Spells.bind (.replicate (.unconditional SubLayerLevel.spells_presenceFlags) _)
  rintro flags _ ⟨rfl, flags_length, -⟩
  apply Spells.bind (spells_reserved maxSubLayersMinus1)
  rintro reserved _ ⟨reserved_length, rfl⟩
  apply Spells.bind (.each SubLayerLevel.spells_subLayerDecoder flags)
  rintro subLayers _ ⟨rfl, flags_eq⟩
  have subLayers_length : subLayers.length = maxSubLayersMinus1 := by
    rw [← flags_length, ← flags_eq, List.length_map]
  refine Spells.done ⟨⟨profileBlock_eq, subLayers_length⟩, reserved, reserved_length, ?_⟩
  rw [← flags_eq, List.flatMap_map, codingWith]
  simp only [List.append_assoc, List.append_nil]
  rfl

end ProfileTierLevel

/-! ## Sub-layers -/

theorem SubLayerOrdering.spells_decoder :
    Spells decoder fun ordering fields => fields = ordering.coding := by
  refine Spells.behind .unsigned fun maxStoredPicturesMinus1 => ?_
  refine Spells.behind .unsigned fun maxReorderedPictures => ?_
  exact Spells.behind .unsigned fun maxLatencyIncreasePlus1 => .done rfl

/-- Behind the flag that says whether each sub-layer is coded stand those that are. -/
theorem SubLayerOrdering.spells_listDecoder (eachCoded : Bool) (maxSubLayersMinus1 : Nat) :
    Spells (listDecoder eachCoded maxSubLayersMinus1) fun ordering fields =>
      ListConsistent eachCoded maxSubLayersMinus1 ordering ∧
        .flag eachCoded :: fields = listCoding eachCoded ordering := by
  cases eachCoded with
  | true =>
      apply (Spells.replicate (.unconditional spells_decoder) _).weaken
      rintro ordering _ ⟨rfl, length_eq, -⟩
      exact ⟨⟨length_eq, nofun⟩, rfl⟩
  | false =>
      refine Spells.behind spells_decoder fun highest => Spells.done ⟨⟨?_, ?_⟩, ?_⟩
      · exact List.length_replicate
      · intro _ entry isEntry
        rw [List.eq_of_mem_replicate isEntry, List.getLast?_replicate]
        rfl
      · rw [listCoding, List.getLast?_replicate, List.append_nil]
        rfl

/-! ## Buffer models -/

theorem BufferSchedule.spells_decoder (unitRemoval : Bool) :
    Spells (decoder unitRemoval) fun schedule fields =>
      fields = schedule.coding unitRemoval ∧ schedule.ConsistentWith unitRemoval := by
  refine Spells.behind .unsigned fun bitRateMinus1 => ?_
  refine Spells.behind .unsigned fun bufferSizeMinus1 => ?_
  apply Spells.bind (.whenElse (.unconditional .unsigned))
  rintro unitBufferSizeMinus1 _ ⟨rfl, -, noSize⟩
  apply Spells.bind (.whenElse (.unconditional .unsigned))
  rintro unitBitRateMinus1 _ ⟨rfl, -, noRate⟩
  refine Spells.behind .flag fun constantBitRate => Spells.done ⟨?_, ?_⟩
  · cases unitRemoval with
    | true => rfl
    | false => rfl
  · exact fun notCoded => ⟨noSize notCoded, noRate notCoded⟩

theorem UnitRemoval.spells_decoder :
    Spells decoder fun removal fields => fields = removal.coding := by
  refine Spells.behind (.bits 8) fun tickDivisorMinus2 => ?_
  refine Spells.behind (.bits 5) fun delayIncrementLengthMinus1 => ?_
  refine Spells.behind .flag fun inTimingMessages => ?_
  exact Spells.behind (.bits 5) fun outputDelayLengthMinus1 => .done rfl

namespace SharedBufferModel

/-- The fields behind the two flags. The scale of the removal of single decoding units stands apart
from its other fields. -/
theorem spells_fields {nalPresent vclPresent : Bool} (isThere : (nalPresent || vclPresent) = true) :
    Spells (fields nalPresent vclPresent) fun shared fields =>
      .flag nalPresent :: .flag vclPresent :: fields = shared.coding ∧ shared.Consistent := by
  refine Spells.behind .flag fun removed => ?_
  apply Spells.bind (.optional (.unconditional UnitRemoval.spells_decoder))
  rintro removal _ ⟨rfl, rfl, -⟩
  refine Spells.behind (.bits 4) fun bitRateScale => ?_
  refine Spells.behind (.bits 4) fun bufferSizeScale => ?_
  apply Spells.bind (.whenElse (.unconditional (.bits 4)))
  rintro unitBufferSizeScale _ ⟨rfl, -, -⟩
  refine Spells.behind (.bits 5) fun initialRemovalDelayLengthMinus1 => ?_
  refine Spells.behind (.bits 5) fun removalDelayLengthMinus1 => ?_
  refine Spells.behind (.bits 5) fun outputDelayLengthMinus1 => Spells.done ⟨?_, ?_⟩
  · rw [coding, isThere]
    cases removal with
    | none => rfl
    | some removal => rfl
  · intro noneThere
    rw [isThere] at noneThere
    cases noneThere

theorem spells_decoder :
    Spells decoder fun shared fields => fields = shared.coding ∧ shared.Consistent := by
  refine Spells.behind .flag fun nalPresent => ?_
  refine Spells.behind .flag fun vclPresent => ?_
  by_cases isThere : (nalPresent || vclPresent) = true
  · rw [Decoder.whenElse, if_pos isThere]
    exact spells_fields isThere
  · rw [Decoder.whenElse, if_neg isThere]
    obtain ⟨rfl, rfl⟩ := Bool.or_eq_false_iff.mp (Bool.eq_false_iff.mpr isThere)
    exact Spells.done ⟨rfl, fun _ => rfl⟩

end SharedBufferModel

namespace SubLayerBufferModel

/-- Schedules of one kind are there under the flag of their kind. -/
theorem spells_schedules (isThere unitRemoval : Bool) (scheduleCountMinus1 : Nat) :
    Spells
      (Decoder.whenElse isThere [] (Decoder.replicate (scheduleCountMinus1 + 1)
        (BufferSchedule.decoder unitRemoval)))
      fun schedules fields =>
        fields = onlyIf isThere (schedules.flatMap (BufferSchedule.coding unitRemoval)) ∧
          ∀ subLayer : SubLayerBufferModel, subLayer.scheduleCountMinus1 = scheduleCountMinus1 →
            subLayer.HasSchedules isThere unitRemoval schedules := by
  apply (Spells.whenElse (.replicate (BufferSchedule.spells_decoder unitRemoval) _)).weaken
  rintro schedules _ ⟨rfl, areThere, noneThere⟩
  refine ⟨rfl, ?_⟩
  rintro subLayer rfl
  refine ⟨fun isCoded => (areThere isCoded).1, noneThere, fun schedule isScheduled => ?_⟩
  by_cases isCoded : isThere = true
  · exact (areThere isCoded).2 schedule isScheduled
  · rw [noneThere (Bool.eq_false_iff.mpr isCoded)] at isScheduled
    cases isScheduled

theorem spells_decoder (shared : SharedBufferModel) :
    Spells (decoder shared) fun subLayer fields =>
      fields = coding shared subLayer ∧ subLayer.ConsistentWith shared := by
  refine Spells.behind .flag fun fixedRateInGeneral => ?_
  apply Spells.bind (.whenElse (.unconditional .flag))
  rintro fixedRateInSequence _ ⟨rfl, -, isFixed⟩
  apply Spells.bind (.whenElse (.unconditional .unsigned))
  rintro elementalDurationMinus1 _ ⟨rfl, -, noDuration⟩
  apply Spells.bind (.whenElse (.unconditional .flag))
  rintro lowDelay _ ⟨rfl, -, noLowDelay⟩
  apply Spells.bind (.whenElse .boundedUnsigned)
  rintro scheduleCountMinus1 _ ⟨rfl, count_le, single⟩
  apply Spells.bind (spells_schedules _ _ scheduleCountMinus1)
  rintro nal _ ⟨rfl, nalHas⟩
  apply Spells.bind (spells_schedules _ _ scheduleCountMinus1)
  rintro vcl _ ⟨rfl, vclHas⟩
  refine Spells.done ⟨?_, ?_⟩
  · simp only [coding, CodedField.ite_eq_onlyIf, List.append_assoc, List.append_nil]
  · constructor
    case fixedRateInSequence => exact fun inGeneral => isFixed (congrArg Bool.not inGeneral)
    case elementalDurationMinus1 => exact noDuration
    case lowDelay => exact fun inSequence => noLowDelay (congrArg Bool.not inSequence)
    case scheduleCountMinus1_le =>
      cases lowDelay with
      | true => exact Nat.le_trans (Nat.le_of_eq (single rfl)) (Nat.zero_le _)
      | false => exact count_le rfl
    case singleSchedule => exact fun isLow => single (congrArg Bool.not isLow)
    case nal => exact nalHas _ rfl
    case vcl => exact vclHas _ rfl

end SubLayerBufferModel

theorem BufferModel.spells_decoder (sharedPresent : Bool) (maxSubLayersMinus1 : Nat) :
    Spells (decoder sharedPresent maxSubLayersMinus1) fun model fields =>
      fields = model.coding sharedPresent ∧
        model.ConsistentWith sharedPresent maxSubLayersMinus1 := by
  apply Spells.within
  apply Spells.bind (.whenElse SharedBufferModel.spells_decoder)
  rintro shared _ ⟨rfl, sharedConsistent, notShared⟩
  apply Spells.bind (.replicate (SubLayerBufferModel.spells_decoder shared) _)
  rintro subLayers _ ⟨rfl, length_eq, consistent⟩
  refine Spells.done ⟨?_, ?_, notShared, length_eq, consistent⟩
  · rw [List.append_nil]
    rfl
  · cases sharedPresent with
    | true => exact sharedConsistent rfl
    | false => exact fun _ => notShared rfl

/-! ## Video parameter sets -/

theorem Timing.spells_decoder : Spells decoder fun timing fields => fields = timing.coding := by
  refine Spells.behind (.bits 32) fun unitsInTick => ?_
  refine Spells.behind (.bits 32) fun timeScale => ?_
  refine Spells.behind .flag fun isThere => ?_
  apply Spells.bind (.optional (.unconditional .unsigned))
  rintro ticksPerPictureMinus1 _ ⟨rfl, rfl, -⟩
  refine Spells.done ?_
  rw [List.append_nil]
  rfl

namespace VideoParameterSet

/-- The layers of a set are the flags that are read. -/
theorem spells_layerSetDecoder (maxLayerId : Nat) :
    Spells (layerSetDecoder maxLayerId) fun layers fields =>
      fields = layerSetCoding maxLayerId layers ∧ layers < 1 <<< (maxLayerId + 1) := by
  apply Spells.bind (.replicate (.unconditional .flag) _)
  rintro flags _ ⟨rfl, length_eq, -⟩
  have below := Bits.toNat_lt flags.reverse
  have flags_eq : (List.range (maxLayerId + 1)).map (Bits.toNat flags.reverse).testBit = flags := by
    apply List.reverse_injective
    rw [Bits.reverse_map_testBit_range, ← length_eq, ← List.length_reverse, Bits.ofNat_toNat]
  rw [List.length_reverse, length_eq] at below
  refine Spells.done ⟨?_, below⟩
  calc flags.flatMap (fun bit => [.flag bit]) ++ []
      = flags.map .flag := by rw [List.append_nil, List.map_eq_flatMap]
    _ = ((List.range (maxLayerId + 1)).map (Bits.toNat flags.reverse).testBit).map .flag := by
          rw [flags_eq]
    _ = layerSetCoding maxLayerId (Bits.toNat flags.reverse) := List.map_map

theorem spells_bufferModelDecoder (maxSubLayersMinus1 index : Nat) :
    Spells (bufferModelDecoder maxSubLayersMinus1 index) fun bufferModel fields =>
      fields = bufferModel.coding index ∧ bufferModel.ConsistentAt maxSubLayersMinus1 index := by
  refine Spells.behind .unsigned fun layerSet => ?_
  apply Spells.bind (.whenElse (.unconditional .flag))
  rintro sharedPresent _ ⟨rfl, -, isFirst⟩
  apply Spells.bind (BufferModel.spells_decoder sharedPresent maxSubLayersMinus1)
  rintro model _ ⟨rfl, consistent⟩
  refine Spells.done ⟨?_, ?_, consistent⟩
  · simp only [LayerSetBufferModel.coding, List.append_assoc, List.append_nil]
  · exact fun index_eq => isFirst (bne_eq_false_iff_eq.mpr index_eq)

theorem spells_bufferModelsDecoder (maxSubLayersMinus1 layerSetCount : Nat) :
    Spells (bufferModelsDecoder maxSubLayersMinus1 layerSetCount) fun bufferModels fields =>
      fields = bufferModelsCoding bufferModels ∧ bufferModels.length ≤ layerSetCount ∧
        ∀ entry ∈ bufferModels.zipIdx, entry.1.ConsistentAt maxSubLayersMinus1 entry.2 := by
  refine Spells.behind .unsigned fun count => ?_
  refine Spells.behindRequire fun inRange => ?_
  apply (Spells.timesIndexed (spells_bufferModelDecoder maxSubLayersMinus1) count).weaken
  rintro bufferModels _ ⟨rfl, rfl, consistent⟩
  exact ⟨rfl, of_decide_eq_true inRange, consistent⟩

/-- The fields of a set, with given flags of missing sub-layers. -/
def codingWith (reserved : List Nat) (set : VideoParameterSet) : List CodedField :=
  [.bits set.id 4, .flag set.baseLayerInternal, .flag set.baseLayerAvailable,
    .bits set.maxLayersMinus1 6, .bits set.maxSubLayersMinus1 3, .flag set.temporalIdNesting,
    .bits 0xffff 16] ++
    set.profileTierLevel.codingWith reserved ++
    SubLayerOrdering.listCoding set.orderingOfEach set.ordering ++
    [.bits set.maxLayerId 6, .unsigned set.layerSets.length] ++
    set.layerSets.flatMap (layerSetCoding set.maxLayerId) ++
    flagged Timing.coding set.timing ++
    onlyIf set.timing.isSome (bufferModelsCoding set.bufferModels) ++
    [.flag set.extended]

/-- Whatever the flags of missing sub-layers are, the other fields hold the values of the set. -/
theorem exact_coding {set : VideoParameterSet} {reserved : List Nat}
    (exact : ∀ field ∈ set.codingWith reserved, field.Exact) :
    ∀ field ∈ set.coding, field.Exact := by
  simp only [coding, codingWith, List.append_assoc, List.forall_mem_append] at exact ⊢
  rcases exact with ⟨front, profileTierLevel, back⟩
  exact ⟨front, ProfileTierLevel.exact_coding profileTierLevel, back⟩

theorem spells_fields :
    Spells fields fun set fields =>
      (∃ reserved : List Nat,
        reserved.length = ProfileTierLevel.reservedCount set.maxSubLayersMinus1 ∧
          fields = set.codingWith reserved) ∧
        ((∀ field ∈ set.coding, field.Exact) → set.Consistent) := by
  refine Spells.behind (.bits 4) fun id => ?_
  refine Spells.behind .flag fun baseLayerInternal => ?_
  refine Spells.behind .flag fun baseLayerAvailable => ?_
  refine Spells.behind (.bits 6) fun maxLayersMinus1 => ?_
  refine Spells.behind (.bits 3) fun maxSubLayersMinus1 => ?_
  refine Spells.behind .flag fun temporalIdNesting => ?_
  refine Spells.behind (.bits 16) fun allOnes => ?_
  refine Spells.behindRequire fun areOnes => ?_
  obtain rfl : allOnes = 0xffff := eq_of_beq areOnes
  apply Spells.bind (ProfileTierLevel.spells_decoder true maxSubLayersMinus1)
  rintro profileTierLevel _ ⟨profileTierLevelConsistent, reserved, reserved_length, rfl⟩
  refine Spells.behind .flag fun orderingOfEach => ?_
  apply Spells.bind (SubLayerOrdering.spells_listDecoder _ maxSubLayersMinus1)
  rintro ordering orderingFields ⟨orderingConsistent, ordering_eq⟩
  refine Spells.behind (.bits 6) fun maxLayerId => ?_
  apply Spells.bind .boundedUnsigned
  rintro layerSetsMinus1 _ ⟨rfl, layerSets_length⟩
  apply Spells.bind (.replicate (spells_layerSetDecoder maxLayerId) _)
  rintro layerSets _ ⟨rfl, rfl, layerSets_lt⟩
  refine Spells.behind .flag fun timed => ?_
  apply Spells.bind (.optional (.unconditional Timing.spells_decoder))
  rintro timing _ ⟨rfl, rfl, -⟩
  apply Spells.bind (.whenElse (spells_bufferModelsDecoder _ _))
  rintro bufferModels _ ⟨rfl, modelsConsistent, noModels⟩
  refine Spells.behind .flag fun extended => Spells.done ⟨⟨reserved, reserved_length, ?_⟩, ?_⟩
  · simp only [codingWith, flagged, ← ordering_eq, List.append_assoc, List.cons_append,
      List.nil_append, List.append_nil]
  · intro exact
    -- Without a clock no models are read, and then there are none.
    have models : bufferModels.length ≤ layerSets.length + 1 ∧
        ∀ entry ∈ bufferModels.zipIdx, entry.1.ConsistentAt maxSubLayersMinus1 entry.2 := by
      cases timing with
      | some timing => exact modelsConsistent rfl
      | none =>
          rw [noModels rfl]
          exact ⟨Nat.zero_le _, List.forall_mem_nil _⟩
    constructor
    case exact => exact exact
    case profileTierLevel => exact profileTierLevelConsistent
    case ordering => exact orderingConsistent
    case layerSets_length => exact layerSets_length
    case layerSets => exact layerSets_lt
    case noBufferModels =>
      rintro rfl
      exact noModels rfl
    case bufferModels_length => exact models.1
    case bufferModels => exact models.2

end VideoParameterSet

/-! ## Units -/

/-- The code of a type is the one that it was made of. -/
theorem NalUnitType.code_ofCode (code : Nat) : (NalUnitType.ofCode code).code = code := by
  unfold NalUnitType.ofCode
  split
  all_goals first
    | rfl
    | split <;> rfl

theorem NalHeader.spells_decoder :
    Spells decoder fun header fields => fields = header.coding := by
  refine Spells.behind (.within .flag) fun forbidden => ?_
  refine Spells.behindRequire fun notForbidden => ?_
  obtain rfl : forbidden = false := Bool.not_eq_eq_eq_not.mp notForbidden
  refine Spells.behind (.within (.bits 6)) fun code => ?_
  refine Spells.behind (.within (.bits 6)) fun layerId => ?_
  refine Spells.behind (.within (.bits 3)) fun temporalIdPlus1 => ?_
  refine Spells.behindRequire fun _ => Spells.done ?_
  rw [coding, NalUnitType.code_ofCode]
  rfl

/-- In front of the fields of a set stands a header that names the set. -/
theorem spells_setDecoder {α : Type} {unitType : NalUnitType} {structureName : String}
    {fields : Decoder α} {related : α → List CodedField → Prop} (spells : Spells fields related) :
    Spells (setDecoder unitType structureName fields) fun set coded =>
      ∃ header : NalHeader, header.unitType = unitType ∧
        ∃ setFields, related set setFields ∧ coded = header.coding ++ setFields := by
  refine Spells.behind NalHeader.spells_decoder fun header => ?_
  refine Spells.behindRequire fun isNamed => ?_
  refine (Spells.within spells).weaken fun set setFields isRelated => ?_
  exact ⟨header, eq_of_beq isNamed, setFields, isRelated, rfl⟩

namespace VideoParameterSet

/-- The bits are those of the fields of the set behind the header of its unit. Only the flags of
missing sub-layers are not those of the set, and behind the fields stand extension data, if the set
says so, or the trailing bits. -/
def SpelledIn (set : VideoParameterSet) (decoded : List Bool) : Prop :=
  ∃ (header : NalHeader) (reserved : List Nat) (rest : List Bool),
    header.unitType = .vps ∧
      reserved.length = ProfileTierLevel.reservedCount set.maxSubLayersMinus1 ∧
      decoded = codeAll (header.coding ++ set.codingWith reserved) 0 ++ rest ∧
      (set.extended = false → ∃ zeros, rest = true :: List.replicate zeros false)

/-- A set that is decoded is consistent, and a unit of up to `2 ^ 29` bytes holds nothing but its
fields. -/
theorem consistent_and_spelledIn {unit : List UInt8} {set : VideoParameterSet}
    (isDecoded : ofUnit unit = .ok set) :
    set.Consistent ∧ ((Emulation.remove unit).length ≤ 536870912 →
      set.SpelledIn (Bits.ofBytes (Emulation.remove unit))) := by
  rw [ofUnit, decoder_eq] at isDecoded
  obtain ⟨decoded, _, front, rest, last,
    ⟨header, isVideo, _, ⟨⟨reserved, count, rfl⟩, consistent⟩, rfl⟩, exact, reads, payload_eq,
    run_eq⟩ := (spells_setDecoder spells_fields).of_decodeUnit isDecoded
  obtain ⟨_, behind, trailing_eq, done_eq⟩ := Decoder.ok_of_run_bind run_eq
  cases done_eq
  rw [List.forall_mem_append] at exact
  refine ⟨consistent (exact_coding exact.2), fun fits => ?_⟩
  have front_fits : front.length ≤ 4294967296 := by
    have length_eq := congrArg List.length payload_eq
    rw [Bits.length_ofBytes, List.length_append] at length_eq
    omega
  refine ⟨header, reserved, rest, isVideo, count, ?_, fun notExtended => ?_⟩
  · rw [payload_eq, ← reads.eq_codeAll front_fits]
  · rw [notExtended] at trailing_eq
    exact Decoder.unread_of_run_trailingBits trailing_eq

end VideoParameterSet

/-! ## Buffer models by themselves -/

/-- The buffer model has what it codes itself. Where it does not code what all sub-layers share, it
has the defaults: no schedules, no removal of single decoding units, scales of zero and lengths of
24 bits. A sub-layer has schedules of one kind exactly if the model itself says that they are
there. -/
structure LayerSetBufferModel.StandsAloneAt (bufferModel : LayerSetBufferModel)
    (maxSubLayersMinus1 index : Nat) : Prop where
  first : index = 0 → bufferModel.sharedPresent = true
  shared_eq : bufferModel.sharedPresent = false → bufferModel.model.shared =
    { nalPresent := false
      vclPresent := false
      unitRemoval := none
      bitRateScale := 0
      bufferSizeScale := 0
      initialRemovalDelayLengthMinus1 := 23
      removalDelayLengthMinus1 := 23
      outputDelayLengthMinus1 := 23 }
  subLayers_length : bufferModel.model.subLayers.length = maxSubLayersMinus1 + 1
  nal_length : ∀ subLayer ∈ bufferModel.model.subLayers, subLayer.nal.length =
    if bufferModel.model.shared.nalPresent then subLayer.scheduleCountMinus1 + 1 else 0
  vcl_length : ∀ subLayer ∈ bufferModel.model.subLayers, subLayer.vcl.length =
    if bufferModel.model.shared.vclPresent then subLayer.scheduleCountMinus1 + 1 else 0

theorem SubLayerBufferModel.HasSchedules.schedules_length {subLayer : SubLayerBufferModel}
    {isThere unitRemoval : Bool} {schedules : List BufferSchedule}
    (has : subLayer.HasSchedules isThere unitRemoval schedules) :
    schedules.length = if isThere then subLayer.scheduleCountMinus1 + 1 else 0 := by
  cases isThere with
  | true => exact has.length_eq rfl
  | false => exact congrArg List.length (has.none rfl)

theorem LayerSetBufferModel.ConsistentAt.standsAloneAt {bufferModel : LayerSetBufferModel}
    {maxSubLayersMinus1 index : Nat}
    (consistent : bufferModel.ConsistentAt maxSubLayersMinus1 index) :
    bufferModel.StandsAloneAt maxSubLayersMinus1 index where
  first := consistent.sharedPresent
  shared_eq := consistent.model.notShared
  subLayers_length := consistent.model.subLayers_length
  nal_length subLayer isSubLayer :=
    (consistent.model.subLayers subLayer isSubLayer).nal.schedules_length
  vcl_length subLayer isSubLayer :=
    (consistent.model.subLayers subLayer isSubLayer).vcl.schedules_length

namespace VideoParameterSet

/-- Each buffer model of a set that is decoded has what it codes itself and otherwise the defaults,
whatever the models in front of it have. In a unit of up to `2 ^ 29` bytes the next field is read
right behind the fields that it codes itself. -/
theorem ofUnit_ownBufferModels {unit : List UInt8} {set : VideoParameterSet}
    (isDecoded : ofUnit unit = .ok set) :
    (∀ (index : Nat) (bufferModel : LayerSetBufferModel),
        set.bufferModels[index]? = some bufferModel →
          bufferModel.StandsAloneAt set.maxSubLayersMinus1 index) ∧
      ((Emulation.remove unit).length ≤ 536870912 →
        set.SpelledIn (Bits.ofBytes (Emulation.remove unit))) := by
  rcases consistent_and_spelledIn isDecoded with ⟨consistent, spelled⟩
  refine ⟨fun index bufferModel isModel => ?_, spelled⟩
  have isEntry : (bufferModel, index) ∈ set.bufferModels.zipIdx :=
    List.mem_zipIdx_iff_getElem?.mpr isModel
  exact (consistent.bufferModels _ isEntry).standsAloneAt

/-- A unit with two buffer models, the second of which does not code what its sub-layers share. -/
def twoModelsUnit : List UInt8 :=
  [0x40, 0x01, 0x0c, 0x01, 0xff, 0xff, 0x01, 0x60, 0x00, 0x00, 0x03, 0x00, 0x00, 0x03, 0x00, 0x00,
    0x03, 0x00, 0x00, 0x03, 0x00, 0x5d, 0x95, 0xc0, 0x58, 0x00, 0x00, 0x1f, 0x48, 0x00, 0x07, 0x53,
    0x01, 0xe1, 0x1d, 0xab, 0x4e, 0x53, 0x53, 0xe4]

theorem ofUnit_twoModelsUnit :
    ∃ set first second, ofUnit twoModelsUnit = .ok set ∧ set.bufferModels = [first, second] ∧
      first.model.shared.nalPresent = true ∧ second.sharedPresent = false ∧
      set.extended = true := by
  -- If the second model had the schedules of the first one, the bit behind its rates would open one.
  obtain ⟨set, isDecoded, holds⟩ := exists_eq_ok_of_any (ofUnit twoModelsUnit)
    (fun set => set.extended && match set.bufferModels with
      | [first, second] => first.model.shared.nalPresent && !second.sharedPresent
      | _ => false) (by decide +kernel)
  rw [Bool.and_eq_true] at holds
  rcases holds with ⟨extended, models⟩
  split at models
  · next first second models_eq =>
      rw [Bool.and_eq_true, Bool.not_eq_eq_eq_not] at models
      exact ⟨set, first, second, isDecoded, models_eq, models.1, models.2, extended⟩
  · cases models

/-- The second model says nothing of schedules and has none, although the first one has some. The
bit behind its rates is read as the flag of extension data. -/
theorem ofUnit_ownBufferModels_twoModels :
    ∃ set first second, ofUnit twoModelsUnit = .ok set ∧ set.bufferModels = [first, second] ∧
      first.model.shared.nalPresent = true ∧ second.model.shared = {} ∧ set.extended = true ∧
      set.SpelledIn (Bits.ofBytes (Emulation.remove twoModelsUnit)) := by
  obtain ⟨set, first, second, isDecoded, models_eq, nalPresent, notShared, extended⟩ :=
    ofUnit_twoModelsUnit
  rcases ofUnit_ownBufferModels isDecoded with ⟨standAlone, spelled⟩
  have isSecond : set.bufferModels[1]? = some second := by
    rw [models_eq]
    rfl
  have shared_eq := (standAlone 1 second isSecond).shared_eq notShared
  exact ⟨set, first, second, isDecoded, models_eq, nalPresent, shared_eq, extended,
    spelled (by decide)⟩

/-- What a model does not code is not taken from the model in front of it. -/
theorem shared_not_inherited :
    ¬ ∀ (unit : List UInt8) (set : VideoParameterSet) (index : Nat)
        (first second : LayerSetBufferModel), ofUnit unit = .ok set →
        set.bufferModels[index]? = some first → set.bufferModels[index + 1]? = some second →
        second.sharedPresent = false → second.model.shared = first.model.shared := by
  intro inherited
  obtain ⟨set, first, second, isDecoded, models_eq, nalPresent, notShared, -⟩ :=
    ofUnit_twoModelsUnit
  have isFirst : set.bufferModels[0]? = some first := by
    rw [models_eq]
    rfl
  have isSecond : set.bufferModels[1]? = some second := by
    rw [models_eq]
    rfl
  have isEntry : (second, 1) ∈ set.bufferModels.zipIdx := List.mem_zipIdx_iff_getElem?.mpr isSecond
  have own_eq :=
    ((consistent_and_spelledIn isDecoded).1.bufferModels _ isEntry).model.notShared notShared
  have shared_eq := inherited twoModelsUnit set 0 first second isDecoded isFirst isSecond notShared
  rw [← shared_eq, own_eq] at nalPresent
  cases nalPresent

end VideoParameterSet

end CodedVideo.Hevc
