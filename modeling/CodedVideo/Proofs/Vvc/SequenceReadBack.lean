import CodedVideo.Proofs.Decoder.Yields
import CodedVideo.Proofs.NalUnit.WrittenUnit
import CodedVideo.Proofs.SharedCoding
import CodedVideo.Proofs.UnitHeaders
import CodedVideo.Vvc.Coding

/-!
# Reading VVC sequence parameter sets back

Of a set the leading fields are written. They are consistent if their values lie in the ranges that
a reader asks for, each field that is coded has the width or the range of its form, and what is not
coded has the value that a reader assumes. Such fields are decoded to the same set whatever follows
them, and it is reported at which place decoding stops. No unit is ever decoded to its end.

Constraints and the flags of sub-layers end at byte boundaries of the unit. How many zeros that takes
depends on where they stand, so they are read back from their position and not from their fields
alone. The levels of sub-layers are coded, and inherited, from the highest to the lowest, while a
set lists them from the lowest to the highest.

Main statement: `SequenceParameterSet.ofUnit_written_leading`.
-/

namespace CodedVideo.Vvc

open CodedField (flagged onlyIf present)
open Decoder (Decodes ReadsBack Yields)

/-! ## Profiles, tiers and levels -/

theorem GeneralConstraints.decodes_coding (constraints : GeneralConstraints) :
    Decodes decoder constraints.coding constraints := by
  simp only [coding, List.cons_append, List.nil_append]
  intro start stop
  refine ReadsBack.bind (.flag constraints.intraOnly) fun mid => ?_
  refine ReadsBack.bind (.flag constraints.layersIndependent) fun mid => ?_
  refine ReadsBack.bind (.flag constraints.oneAccessUnit) fun mid => ?_
  refine ReadsBack.bind (.bits constraints.sixteenMinusMaxDepth 4) fun mid => ?_
  refine ReadsBack.bind (.bits constraints.threeMinusMaxChroma 2) fun mid => ?_
  refine ReadsBack.bind (.wideBits constraints.flags 62) fun mid => ?_
  refine ReadsBack.bind (.bits constraints.additional.length 8) fun mid => ?_
  exact ReadsBack.bind_last (.replicate_map rfl .flag) (.done constraints)

namespace SubLayerLevel

/-- The level that a sub-layer inherits from the sub-layers above it: that of the lowest of them, or
the general level where there are none. -/
def nextHigher (general : Nat) (above : List SubLayerLevel) : Nat :=
  (above.head?.map (·.levelIdc)).getD general

/-- Each sub-layer, from the lowest to the highest, whose level is not coded has that of the next
higher one, and the highest has the general level. -/
def Inherit (general : Nat) : List SubLayerLevel → Prop
  | [] => True
  | subLayer :: above =>
      (subLayer.isCoded = false → subLayer.levelIdc = nextHigher general above) ∧
        Inherit general above

/-- The highest sub-layer inherits the general level, and those below it inherit its own. -/
theorem inherit_append_singleton {general : Nat} {below : List SubLayerLevel}
    {highest : SubLayerLevel} (inherit : Inherit general (below ++ [highest])) :
    (highest.isCoded = false → highest.levelIdc = general) ∧ Inherit highest.levelIdc below := by
  induction below with
  | nil => exact ⟨inherit.1, trivial⟩
  | cons lowest below inductionHypothesis =>
      rw [List.cons_append] at inherit
      obtain ⟨highestInherits, belowInherit⟩ := inductionHypothesis inherit.2
      refine ⟨highestInherits, fun notCoded => ?_, belowInherit⟩
      rw [inherit.1 notCoded]
      cases below <;> rfl

/-- Levels are read back from the highest sub-layer to the lowest, each on top of those that were
read. The induction is along the coding, so it is on the sub-layers from the highest down. -/
theorem decodes_levels {general : Nat} (fromHighest : List SubLayerLevel)
    (inherit : Inherit general fromHighest.reverse) (higher : List SubLayerLevel) :
    Decodes (ProfileTierLevel.subLayersBelow general (fromHighest.map (·.isCoded)) higher)
      (fromHighest.flatMap coding) (fromHighest.reverse ++ higher) := by
  induction fromHighest generalizing general higher with
  | nil => exact .done higher
  | cons highest below inductionHypothesis =>
      rw [List.reverse_cons] at inherit
      obtain ⟨highestInherits, belowInherit⟩ := inherit_append_singleton inherit
      rw [List.map_cons, List.flatMap_cons, List.reverse_cons, List.append_assoc]
      intro start stop
      refine ReadsBack.bind (.whenElse (.bits highest.levelIdc 8) highestInherits) fun mid => ?_
      exact inductionHypothesis belowInherit (highest :: higher) mid stop

end SubLayerLevel

namespace ProfileTierLevel

/-- The profile and the tier are there, and each sub-layer below the highest has an entry, with the
level that it inherits unless it codes its own. -/
structure ConsistentWith (level : ProfileTierLevel) (maxSubLayersMinus1 : Nat) : Prop where
  profileTier_isSome : level.profileTier.isSome = true
  subLayers_length : level.subLayers.length = maxSubLayersMinus1
  inherit : SubLayerLevel.Inherit level.levelIdc level.subLayers

/-- The constraints are read back with the zeros behind them. -/
theorem decodes_constraints (constraints : Option GeneralConstraints) :
    Decodes constraintsDecoder (flagged GeneralConstraints.coding constraints ++ [.alignment])
      constraints := by
  intro start stop
  refine ReadsBack.optionalBehindFlag_bind (fun content _ => content.decodes_coding) fun mid => ?_
  exact ReadsBack.bind_last .align (.done constraints)

theorem decodes_subProfiles (subProfiles : List Nat) :
    Decodes ((Decoder.bits 8).bind fun count => Decoder.replicate count (Decoder.bits 32))
      (.bits subProfiles.length 8 :: subProfiles.map (.bits · 32)) subProfiles := by
  intro start stop
  refine ReadsBack.bind (.bits subProfiles.length 8) fun mid => ?_
  exact Decodes.replicate_map rfl (fun subProfile => .bits subProfile 32) mid stop

theorem decodes_coding {level : ProfileTierLevel} {maxSubLayersMinus1 : Nat}
    (consistent : level.ConsistentWith maxSubLayersMinus1) :
    Decodes (decoder true maxSubLayersMinus1) level.coding level := by
  obtain ⟨profileTier_isSome, rfl, inherit⟩ := consistent
  rcases level with ⟨profileTier?, levelIdc, framesOnly, multilayerEnabled, subLayers⟩
  obtain ⟨profileTier, rfl⟩ := Option.isSome_iff_exists.mp profileTier_isSome
  have flags_length : (subLayers.reverse.map (·.isCoded)).length = subLayers.length := by
    rw [List.length_map, List.length_reverse]
  have flagsRead := Decodes.replicate_map flags_length Decodes.flag
  rw [List.map_map] at flagsRead
  rw [← List.reverse_reverse subLayers] at inherit
  have levelsRead := SubLayerLevel.decodes_levels subLayers.reverse inherit []
  rw [List.reverse_reverse, List.append_nil] at levelsRead
  have constraintsRead := decodes_constraints profileTier.constraints
  apply Decodes.within
  simp only [coding, present, Option.map_some, Option.getD_some]
  -- The constraints stay one part, with the zeros behind them.
  generalize flagged GeneralConstraints.coding profileTier.constraints ++ [.alignment] =
    constraintsCoding at constraintsRead ⊢
  simp only [List.append_assoc, List.cons_append, List.nil_append]
  intro start stop
  refine ReadsBack.bind (.bits profileTier.profileIdc 7) fun mid => ?_
  refine ReadsBack.bind (.flag profileTier.tierFlag) fun mid => ?_
  refine ReadsBack.bind (.bits levelIdc 8) fun mid => ?_
  refine ReadsBack.bind (.flag framesOnly) fun mid => ?_
  refine ReadsBack.bind (.flag multilayerEnabled) fun mid => ?_
  refine ReadsBack.bind constraintsRead fun mid => ?_
  refine ReadsBack.bind flagsRead fun mid => ?_
  refine ReadsBack.bind .align fun mid => ?_
  refine ReadsBack.bind levelsRead fun mid => ?_
  exact ReadsBack.bind_last (decodes_subProfiles profileTier.subProfiles) (.done _)

end ProfileTierLevel

/-! ## Whole sets -/

namespace SequenceParameterSet

/-- The leading fields of the set can be written: their values lie in the ranges that a reader asks
for, each field that is coded has the width or the range of its form, the profile is consistent, and
the resolution changes only where it is coded whether it does. -/
structure Consistent (set : SequenceParameterSet) : Prop where
  exact : ∀ field ∈ set.coding, field.Exact
  maxSubLayersMinus1_le : set.maxSubLayersMinus1 ≤ 6
  log2TreeSizeMinus5_le : set.log2TreeSizeMinus5 ≤ 2
  profileTierLevel : ∀ level ∈ set.profileTierLevel, level.ConsistentWith set.maxSubLayersMinus1
  resolutionKept : set.resampling = false → set.resolutionChanges = false
  maxWidth_ne : set.maxWidth ≠ 0
  maxHeight_ne : set.maxHeight ≠ 0
  depthMinus8_le : ∀ depthMinus8 ∈ set.depthMinus8, depthMinus8 ≤ 8

theorem decodes_size {width height : Nat} (width_ne : width ≠ 0) (height_ne : height ≠ 0) :
    Decodes sizeDecoder [.unsigned width, .unsigned height] (width, height) := by
  have notZero : (width != 0 && height != 0) = true := by
    rw [Bool.and_eq_true, bne_iff_ne, bne_iff_ne]
    exact ⟨width_ne, height_ne⟩
  intro start stop
  refine ReadsBack.bind (.unsigned width) fun mid => ?_
  refine ReadsBack.bind_last (.unsigned height) ?_
  exact ReadsBack.bind_first (.require notZero) (.done (width, height))

/-- A number in its range is decoded from its width. -/
theorem decodes_bounded {value width bound : Nat} {error : Nat → Error} (value_le : value ≤ bound) :
    Decodes ((Decoder.bits width).bind fun found =>
        (Decoder.require (found ≤ bound) (error found)).bind fun _ => Decoder.done found)
      [.bits value width] value := by
  intro start stop
  refine ReadsBack.bind_last (.bits value width) ?_
  exact ReadsBack.bind_first (.require (decide_eq_true value_le)) (.done value)

theorem decodes_coding {set : SequenceParameterSet} (consistent : set.Consistent) :
    Decodes fields set.coding set := by
  have depth_isSome : set.depthMinus8.isSome = !set.hasSubpictures := by
    rw [hasSubpictures, Option.not_isNone]
  have sizeRead := decodes_size consistent.maxWidth_ne consistent.maxHeight_ne
  simp only [coding, List.append_assoc, List.cons_append, List.nil_append]
  intro start stop
  refine ReadsBack.bind (.bits set.id 4) fun mid => ?_
  refine ReadsBack.bind (.bits set.videoSetId 4) fun mid => ?_
  refine ReadsBack.bind (decodes_bounded consistent.maxSubLayersMinus1_le) fun mid => ?_
  refine ReadsBack.bind (.bits set.chroma 2) fun mid => ?_
  refine ReadsBack.bind (decodes_bounded consistent.log2TreeSizeMinus5_le) fun mid => ?_
  refine ReadsBack.optionalBehindFlag_bind (fun level isThere =>
    ProfileTierLevel.decodes_coding (consistent.profileTierLevel level isThere)) fun mid => ?_
  refine ReadsBack.bind (.flag set.gradualRefresh) fun mid => ?_
  refine ReadsBack.bind (.flag set.resampling) fun mid => ?_
  refine ReadsBack.bind (.whenElse (.flag set.resolutionChanges) consistent.resolutionKept)
    fun mid => ?_
  refine ReadsBack.bind sizeRead fun mid => ?_
  refine ReadsBack.optionalBehindFlag_bind (fun window _ => window.decodes_coding) fun mid => ?_
  refine ReadsBack.bind (.flag set.hasSubpictures) fun mid => ?_
  exact ReadsBack.bind_last (.optional depth_isSome fun depthMinus8 isThere =>
    .boundedUnsigned (consistent.depthMinus8_le depthMinus8 isThere)) (.done set)

/-- The unit of consistent fields is decoded to them, up to the place where decoding stops. -/
theorem decodes_unit {set : SequenceParameterSet} (consistent : set.Consistent)
    {layerId temporalIdPlus1 : Nat} (temporalIdPlus1_ne : temporalIdPlus1 ≠ 0) :
    Decodes decoder
      (({ layerId, unitType := .sps, temporalIdPlus1 } : NalHeader).coding ++ set.coding)
      (set, some (.unsupported structureName set.stop)) := by
  let header : NalHeader := { layerId, unitType := .sps, temporalIdPlus1 }
  have headerRead : Decodes NalHeader.decoder header.coding header :=
    NalHeader.decodes_coding rfl temporalIdPlus1_ne
  intro start stop
  refine ReadsBack.bind headerRead fun mid => ?_
  refine ReadsBack.bind_first (.require rfl) ?_
  exact ReadsBack.bind_last (.within (decodes_coding consistent)) (.done _)

/-- Decoding always stops at what is not supported. -/
theorem yields_stop : Yields decoder fun result => result.2.isSome = true := by
  iterate 3 refine Yields.behind fun _ => ?_
  exact Yields.done rfl

/-- No unit is decoded to its end. -/
theorem ofUnit_ne_ok (unit : List UInt8) (set : SequenceParameterSet) : ofUnit unit ≠ .ok set := by
  intro isDecoded
  rw [ofUnit, Decoder.decodeUnitPartly] at isDecoded
  rcases decode_eq : decoder.decodeUnit unit with error | ⟨found, _ | error⟩
  · rw [decode_eq] at isDecoded
    cases isDecoded
  · cases yields_stop.of_decodeUnit decode_eq
  · rw [decode_eq] at isDecoded
    cases isDecoded

/-- Consistent leading fields are written to a unit, and whatever bits follow, the unit is decoded to
exactly those fields: at the layout of subpictures if there is one, and otherwise behind the bit
depth, it is reported what is not supported. No unit at all is decoded to its end. -/
theorem ofUnit_written_leading :
    (∀ (set : SequenceParameterSet) (layerId temporalIdPlus1 : Nat) (rest : List Bool),
        set.Consistent → layerId < 64 → temporalIdPlus1 ≠ 0 → temporalIdPlus1 < 8 →
        ∃ unit, set.toUnit layerId temporalIdPlus1 rest = .ok unit ∧
          ofUnit unit = .error (.stopped set (.unsupported structureName
            (if set.depthMinus8 = none then stopAtSubpictures else stopBehindDepth)))) ∧
      ∀ (unit : List UInt8) (set : SequenceParameterSet), ofUnit unit ≠ .ok set := by
  refine ⟨?_, ofUnit_ne_ok⟩
  intro set layerId temporalIdPlus1 rest consistent layerId_lt temporalIdPlus1_ne temporalIdPlus1_lt
  have code_lt : NalUnitType.sps.code < 32 := by decide
  have exact : ∀ field ∈
      ({ layerId, unitType := .sps, temporalIdPlus1 } : NalHeader).coding ++ set.coding,
      field.Exact :=
    List.forall_mem_append.mpr
      ⟨NalHeader.exact_coding code_lt layerId_lt temporalIdPlus1_lt, consistent.exact⟩
  obtain ⟨unit, unit_eq, decoded⟩ := Decoder.decodeUnit_toUnit
    (decodes_unit consistent temporalIdPlus1_ne 0 _) exact rfl
    (CodedField.fits_of_mem_map_flag rest)
  refine ⟨unit, unit_eq, ?_⟩
  rw [ofUnit, Decoder.decodeUnitPartly, decoded]
  have stop_eq : set.stop =
      if set.depthMinus8 = none then stopAtSubpictures else stopBehindDepth := by
    rw [stop, hasSubpictures]
    cases set.depthMinus8 <;> rfl
  rw [stop_eq]

/-! ### A set with all parts -/

/-- A profile with constraints that end inside a byte, and three sub-layers below the highest: the
middle one codes its level, the one below inherits that, and the one above the general level. -/
def sampleLevel : ProfileTierLevel where
  profileTier := some {
    profileIdc := 33
    tierFlag := true
    constraints := some {
      intraOnly := true
      layersIndependent := false
      oneAccessUnit := false
      sixteenMinusMaxDepth := 6
      threeMinusMaxChroma := 1
      flags := 0x2000000000000001
      additional := [true, false, true] }
    subProfiles := [0x12345678, 0xdeadbeef] }
  levelIdc := 83
  framesOnly := false
  multilayerEnabled := true
  subLayers := [
    { isCoded := false, levelIdc := 51 },
    { isCoded := true, levelIdc := 51 },
    { isCoded := false, levelIdc := 83 }]

/-- A set in which every optional part is there. -/
def fullSample : SequenceParameterSet where
  id := 15
  videoSetId := 1
  maxSubLayersMinus1 := 3
  chroma := 1
  log2TreeSizeMinus5 := 2
  profileTierLevel := some sampleLevel
  gradualRefresh := true
  resampling := true
  resolutionChanges := true
  maxWidth := 1920
  maxHeight := 1088
  conformanceWindow := some { left := 0, right := 0, top := 0, bottom := 4 }
  depthMinus8 := some 8

/-- A set that stops at the layout of subpictures, with few optional parts. -/
def subpicturesSample : SequenceParameterSet :=
  { fullSample with
    profileTierLevel := none
    resampling := false
    resolutionChanges := false
    conformanceWindow := none
    depthMinus8 := none }

theorem consistent_sampleLevel : sampleLevel.ConsistentWith 3 where
  profileTier_isSome := rfl
  subLayers_length := rfl
  inherit := ⟨fun _ => rfl, fun notCoded => (by cases notCoded), fun _ => rfl, trivial⟩

theorem consistent_fullSample : fullSample.Consistent where
  exact := by decide +kernel
  maxSubLayersMinus1_le := by decide
  log2TreeSizeMinus5_le := by decide
  profileTierLevel level isThere := by
    cases isThere
    exact consistent_sampleLevel
  resolutionKept notCoded := by cases notCoded
  maxWidth_ne := by decide
  maxHeight_ne := by decide
  depthMinus8_le := by decide

theorem consistent_subpicturesSample : subpicturesSample.Consistent where
  exact := by decide +kernel
  maxSubLayersMinus1_le := by decide
  log2TreeSizeMinus5_le := by decide
  profileTierLevel level isThere := by cases isThere
  resolutionKept _ := rfl
  maxWidth_ne := by decide
  maxHeight_ne := by decide
  depthMinus8_le := by decide

/-- Both samples are written, with data behind them, and decoded up to their places. -/
theorem ofUnit_written_leading_samples :
    (∃ unit, fullSample.toUnit 0 1 [true, false] = .ok unit ∧
        ofUnit unit =
          .error (.stopped fullSample (.unsupported "SPS" "fields after sps_bitdepth_minus8"))) ∧
      ∃ unit, subpicturesSample.toUnit 63 7 [] = .ok unit ∧
        ofUnit unit = .error (.stopped subpicturesSample (.unsupported "SPS" "subpicture info")) :=
  ⟨ofUnit_written_leading.1 fullSample 0 1 [true, false] consistent_fullSample (by decide)
      (by decide) (by decide),
    ofUnit_written_leading.1 subpicturesSample 63 7 [] consistent_subpicturesSample (by decide)
      (by decide) (by decide)⟩

end SequenceParameterSet

end CodedVideo.Vvc
