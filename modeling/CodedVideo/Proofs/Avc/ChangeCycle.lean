import CodedVideo.Avc.SliceHeader
import CodedVideo.Proofs.Avc.PictureReadBack
import CodedVideo.Proofs.MachineWords
import CodedVideo.Proofs.SharedConfinement
import Mathlib.Analysis.SpecialFunctions.Log.Base

/-!
# The width of the change cycle

Where a slice group map changes, a slice says how far the map has come, in a field that is just wide
enough to tell apart the start and the steps in which the map changes as a whole. The width is
computed from a quotient that is rounded up, and from a sum that is capped. It is the logarithm of
the exact quotient nevertheless: the only sum that is capped is the power of two behind the cap, and
both have the same width.

Main statement: `SliceHeader.changeCycleDecoder_leastWidth`.
-/

namespace CodedVideo

/-! ## Widths -/

theorem ceilLog2_le_iff {count width : Nat} : ceilLog2 count ≤ width ↔ count ≤ 1 <<< width := by
  refine ⟨fun width_le => ?_, ceilLog2_le⟩
  rw [ceilLog2] at width_le
  rw [Nat.one_shiftLeft]
  split at width_le
  · next few => exact Nat.le_trans few Nat.one_le_two_pow
  · next several =>
      have below := (Nat.log2_lt (by omega)).mp (Nat.lt_of_succ_le width_le)
      omega

/-- A number that exceeds the greatest size by one at most loses no width to the cap. -/
theorem ceilLog2_saturate {count : Nat} (count_le : count ≤ sizeLimit + 1) :
    ceilLog2 (saturate count) = ceilLog2 count := by
  by_cases isSmall : count ≤ sizeLimit
  · rw [saturate_of_le isSmall]
  · have count_eq : count = sizeLimit + 1 := Nat.le_antisymm count_le (Nat.lt_of_not_le isSmall)
    rw [saturate_of_ge (Nat.le_of_not_le isSmall), count_eq]
    decide

namespace Avc.SliceHeader

variable {sequenceSet : SequenceParameterSet} {rate : Nat}

/-- The steps and the start can be told apart exactly if the power of two times the rate reaches the
map units of the picture and the rate. -/
theorem changeCycleWidth_le_iff (positive : 1 ≤ rate) {width : Nat} :
    changeCycleWidth sequenceSet rate ≤ width ↔
      sequenceSet.pictureSizeInMapUnits + rate ≤ (1 <<< width) * rate := by
  have units_le : sequenceSet.pictureSizeInMapUnits ≤ sizeLimit := Nat.min_le_right _ _
  generalize units_eq : sequenceSet.pictureSizeInMapUnits = units at units_le
  have steps_le : (units + (rate - 1)) / rate ≤ sizeLimit := by
    rw [div_roundedUp_le_iff positive]
    exact Nat.le_trans units_le (Nat.le_mul_of_pos_right _ positive)
  have powerPositive : 0 < 1 <<< width := by
    rw [Nat.one_shiftLeft]
    exact Nat.two_pow_pos width
  rw [changeCycleWidth, units_eq, Nat.max_eq_left positive,
    ceilLog2_saturate (Nat.succ_le_succ steps_le), ceilLog2_le_iff,
    ← Nat.le_sub_iff_add_le powerPositive, div_roundedUp_le_iff positive, Nat.sub_mul, Nat.one_mul,
    Nat.le_sub_iff_add_le (Nat.le_mul_of_pos_left rate powerPositive)]

theorem changeCycleWidth_le (sequenceSet : SequenceParameterSet) (rate : Nat) :
    changeCycleWidth sequenceSet rate ≤ 32 :=
  (atMost_ceilLog2_saturate _).le

/-- The width is the logarithm of the exact quotient, rounded up. -/
theorem changeCycleWidth_eq_ceil (positive : 1 ≤ rate) :
    changeCycleWidth sequenceSet rate =
      ⌈Real.logb 2 ((sequenceSet.pictureSizeInMapUnits : ℝ) / rate + 1)⌉₊ := by
  have ratePositive : (0 : ℝ) < rate := Nat.cast_pos.mpr positive
  have quotientPositive : (0 : ℝ) < (sequenceSet.pictureSizeInMapUnits : ℝ) / rate + 1 := by
    positivity
  apply eq_of_forall_ge_iff
  intro width
  rw [changeCycleWidth_le_iff positive, Nat.ceil_le,
    Real.logb_le_iff_le_rpow one_lt_two quotientPositive, Real.rpow_natCast,
    div_add_one (ne_of_gt ratePositive), div_le_iff₀ ratePositive, Nat.one_shiftLeft]
  norm_cast

/-- Behind a changing slice group map the change cycle is read in the least width that tells apart
the start and all steps of the map, whatever the size of the picture and the rate: the logarithm of
their exact quotient and one, rounded up. It is never refused for being too wide. -/
theorem changeCycleDecoder_leastWidth (sequenceSet : SequenceParameterSet)
    {pictureSet : PictureParameterSet} {groups : SliceGroups} {growth : GroupGrowth}
    {reversed : Bool} {rateMinus1 : Nat} (hasGroups : pictureSet.sliceGroups = some groups)
    (changes : groups.map = .changing growth reversed rateMinus1) :
    let units := sequenceSet.pictureSizeInMapUnits
    let rate := saturate (rateMinus1 + 1)
    let width := changeCycleWidth sequenceSet rate
    changeCycleDecoder sequenceSet pictureSet = Decoder.bits width ∧ width ≤ 32 ∧
      IsLeast {width | units + rate ≤ (1 <<< width) * rate} width ∧
      width = ⌈Real.logb 2 ((units : ℝ) / rate + 1)⌉₊ := by
  intro units rate width
  have positive : 1 ≤ rate := Nat.le_min.mpr ⟨Nat.succ_pos rateMinus1, by decide⟩
  have rate_eq : pictureSet.changeRate? = some rate := by
    rw [PictureParameterSet.changeRate?, hasGroups, Option.bind_some, changes]
    rfl
  have inRange : width ≤ 32 := changeCycleWidth_le sequenceSet rate
  refine ⟨?_, inRange, ⟨?_, fun other reaches => ?_⟩, changeCycleWidth_eq_ceil positive⟩
  · rw [changeCycleDecoder, rate_eq]
    exact if_neg (Nat.not_lt.mpr inRange)
  · exact (changeCycleWidth_le_iff positive).mp (Nat.le_refl width)
  · exact (changeCycleWidth_le_iff positive).mpr reaches

/-- A sequence with pictures of `2 ^ 32` map units, of which the cap leaves one less. -/
def widestSequence : SequenceParameterSet :=
  { SequenceParameterSet.fullSample with
    widthInMacroblocksMinus1 := 65535
    heightInMapUnitsMinus1 := 65535 }

/-- A slice group map in which the map units of a picture change one by one. -/
def slowestMap : SliceGroups where
  countMinus1 := 1
  map := .changing .wipe true 0

/-- A picture parameter set with that map. -/
def slowestSample : PictureParameterSet :=
  { PictureParameterSet.plainSample with sliceGroups := some slowestMap }

/-- The change cycle of the greatest picture and the least rate is read in 32 bits. -/
theorem changeCycleDecoder_leastWidth_widest :
    (slowestSample.sliceGroups = some slowestMap ∧ slowestMap.map = .changing .wipe true 0 ∧
        widestSequence.pictureSizeInMapUnits = 4294967295) ∧
      changeCycleDecoder widestSequence slowestSample = Decoder.bits 32 ∧
      IsLeast {width | 4294967295 + 1 ≤ (1 <<< width) * 1} 32 := by
  have units_eq : widestSequence.pictureSizeInMapUnits = 4294967295 := by decide +kernel
  have rate_eq : saturate (0 + 1) = 1 := by decide
  have width_eq : changeCycleWidth widestSequence 1 = 32 := by decide +kernel
  have hasGroups : slowestSample.sliceGroups = some slowestMap := rfl
  obtain ⟨decoder_eq, -, least, -⟩ := changeCycleDecoder_leastWidth widestSequence hasGroups rfl
  rw [rate_eq, width_eq] at decoder_eq least
  rw [units_eq] at least
  exact ⟨⟨hasGroups, rfl, units_eq⟩, decoder_eq, least⟩

end Avc.SliceHeader

end CodedVideo
