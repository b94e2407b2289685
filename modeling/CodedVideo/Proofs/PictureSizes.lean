import CodedVideo.Proofs.Avc.SequenceGrammar
import CodedVideo.Proofs.Hevc.SequenceRanges
import CodedVideo.Proofs.Vvc.SequenceGrammar

/-!
# Sizes of shown pictures

The size of a shown picture is that of the coded one less its margins, which are counted in units
that follow from the format of the chroma samples. Every step of the computation is capped at 32
bits. Where the coded size itself has no more than 32 bits, no cap shows in the result: it is what
the integers say, or zero if the margins take more than there is, however great they are.

Main statement: `shownSizes_exact`.
-/

namespace CodedVideo

open Decoder (Yields)

/-! ## Formats and margins -/

/-- The width of a chroma sample in luma samples: in monochrome, 4:2:0, 4:2:2 and 4:4:4. -/
def subWidths : List Nat := [1, 2, 2, 1]

/-- The height of a chroma sample in luma samples: in monochrome, 4:2:0, 4:2:2 and 4:4:4. -/
def subHeights : List Nat := [1, 2, 1, 1]

/-- The margins left and right of a window together; without a window there are none. -/
def sideMargins : Option Window → Nat
  | none => 0
  | some window => window.left + window.right

/-- The margins above and below a window together; without a window there are none. -/
def edgeMargins : Option Window → Nat
  | none => 0
  | some window => window.top + window.bottom

theorem subWidths_getD {chroma : Nat} (chroma_le : chroma ≤ 3) :
    subWidths.getD chroma 0 = if chroma = 1 ∨ chroma = 2 then 2 else 1 := by
  have listed : ∀ format ∈ List.range 4,
      subWidths.getD format 0 = if format = 1 ∨ format = 2 then 2 else 1 := by decide
  exact listed chroma (List.mem_range.mpr (Nat.lt_succ_of_le chroma_le))

theorem subHeights_getD {chroma : Nat} (chroma_le : chroma ≤ 3) :
    subHeights.getD chroma 0 = if chroma = 1 then 2 else 1 := by
  have listed : ∀ format ∈ List.range 4,
      subHeights.getD format 0 = if format = 1 then 2 else 1 := by decide
  exact listed chroma (List.mem_range.mpr (Nat.lt_succ_of_le chroma_le))

section

variable {coded : Nat} (coded_le : coded ≤ sizeLimit) (unit : Nat)

include coded_le

/-- Cutting the margins at both sides off a coded width, or nothing without a window. -/
theorem shownWidth_eq (window : Option Window) :
    ((match window with
      | none => coded
      | some margins => crop coded unit margins.left margins.right : Nat) : Int) =
      cropExactly coded unit (sideMargins window) := by
  cases window with
  | none => rw [cropExactly_eq_sub, sideMargins, Nat.mul_zero, Nat.sub_zero]
  | some margins => exact crop_eq_cropExactly coded_le unit margins.left margins.right

/-- Cutting the margins above and below off a coded height, or nothing without a window. -/
theorem shownHeight_eq (window : Option Window) :
    ((match window with
      | none => coded
      | some margins => crop coded unit margins.top margins.bottom : Nat) : Int) =
      cropExactly coded unit (edgeMargins window) := by
  cases window with
  | none => rw [cropExactly_eq_sub, edgeMargins, Nat.mul_zero, Nat.sub_zero]
  | some margins => exact crop_eq_cropExactly coded_le unit margins.top margins.bottom

end

/-! ## AVC -/

namespace Avc

theorem SampleFormat.yields_chroma : Yields decoder (·.chroma ≤ 3) := by
  refine Yields.bind Yields.boundedUnsigned fun chroma chroma_le => ?_
  iterate 6 refine Yields.behind fun _ => ?_
  exact Yields.done chroma_le

namespace SequenceParameterSet

theorem yields_chroma : Yields unitDecoder (·.format.chroma ≤ 3) := by
  have fieldsYield : Yields fields (·.1.format.chroma ≤ 3) := by
    iterate 4 refine Yields.behind fun _ => ?_
    have standard_le : SampleFormat.standard.chroma ≤ 3 := by decide
    refine Yields.bind (Yields.whenElse SampleFormat.yields_chroma standard_le)
      fun format chroma_le => ?_
    iterate 12 refine Yields.behind fun _ => ?_
    exact Yields.done chroma_le
  have contentYields : Yields contentDecoder (·.format.chroma ≤ 3) := by
    refine Yields.behind fun _ => ?_
    refine Yields.bind (Yields.within fieldsYield) fun result chroma_le => ?_
    refine Yields.behind fun _ => ?_
    exact Yields.done chroma_le
  refine Yields.bind contentYields fun set chroma_le => ?_
  refine Yields.behind fun _ => ?_
  exact Yields.done chroma_le

theorem chroma_le_of_ofUnit {unit : List UInt8} {set : SequenceParameterSet}
    (isDecoded : ofUnit unit = .ok set) : set.format.chroma ≤ 3 := by
  have decoded : unitDecoder.decodeUnit unit = .ok set.withoutByteCounts := by
    rw [← map_withoutByteCounts_ofUnit, isDecoded]
    rfl
  have chroma_le := Yields.of_decodeUnit yields_chroma decoded
  exact chroma_le

/-! ### Exact sizes -/

variable (set : SequenceParameterSet)

/-- The number of fields in a frame where there are fields, and otherwise one. -/
def fieldFactor : Nat :=
  2 - if set.framesOnly then 1 else 0

/-- The width of a picture in macroblocks, however great. -/
def exactWidthInMacroblocks : Nat :=
  set.widthInMacroblocksMinus1 + 1

/-- The height of a frame in macroblocks, however great. -/
def exactFrameHeightInMacroblocks : Nat :=
  set.fieldFactor * (set.heightInMapUnitsMinus1 + 1)

/-- The format of the chroma samples that are coded with the luma samples. -/
def chromaArrayType : Nat :=
  if set.format.separatePlanes then 0 else set.format.chroma

/-- The luma samples in a horizontal unit of cropping. -/
def cropUnitX : Nat :=
  if set.chromaArrayType = 0 then 1 else subWidths.getD set.format.chroma 0

/-- The luma samples in a vertical unit of cropping. -/
def cropUnitY : Nat :=
  set.fieldFactor * if set.chromaArrayType = 0 then 1 else subHeights.getD set.format.chroma 0

/-- The size of the shown picture is exact where the coded one has no more than 32 bits. -/
structure SizeExact : Prop where
  width_eq : 16 * set.exactWidthInMacroblocks ≤ 4294967295 →
    (set.width : Int) =
      cropExactly (16 * set.exactWidthInMacroblocks) set.cropUnitX (sideMargins set.cropping)
  height_eq : 16 * set.exactFrameHeightInMacroblocks ≤ 4294967295 →
    (set.height : Int) =
      cropExactly (16 * set.exactFrameHeightInMacroblocks) set.cropUnitY (edgeMargins set.cropping)

theorem mapUnitHeight_eq : set.mapUnitHeight = set.fieldFactor := by
  rw [mapUnitHeight, fieldFactor]
  cases set.framesOnly with
  | true => rfl
  | false => rfl

variable {set}

theorem cropUnitWidth_eq (chroma_le : set.format.chroma ≤ 3) :
    set.cropUnitWidth = set.cropUnitX := by
  rw [cropUnitX, subWidths_getD chroma_le, cropUnitWidth, chromaWidthRatio]
  rfl

theorem cropUnitHeight_eq (chroma_le : set.format.chroma ≤ 3) :
    set.cropUnitHeight = set.cropUnitY := by
  rw [cropUnitY, subHeights_getD chroma_le, cropUnitHeight, chromaHeightRatio, mapUnitHeight_eq]
  have codedChroma_eq : set.codedChroma = set.chromaArrayType := rfl
  rw [codedChroma_eq]
  by_cases isMonochrome : set.chromaArrayType = 0
  · rw [if_pos isMonochrome, if_pos isMonochrome, Nat.mul_one]
  · rw [if_neg isMonochrome, if_neg isMonochrome, Nat.mul_comm]

/-- The caps on the coded width are one cap. -/
theorem codedWidth_eq :
    saturate (set.widthInMacroblocks * 16) = saturate (16 * set.exactWidthInMacroblocks) := by
  rw [widthInMacroblocks, saturate_saturate_mul, Nat.mul_comm, exactWidthInMacroblocks]

/-- The caps on the coded height are one cap. -/
theorem codedHeight_eq :
    saturate (set.frameHeightInMacroblocks * 16) =
      saturate (16 * set.exactFrameHeightInMacroblocks) := by
  have frameHeight_eq :
      set.frameHeightInMacroblocks = saturate set.exactFrameHeightInMacroblocks := by
    rw [frameHeightInMacroblocks, heightInMapUnits, saturate_saturate_mul, mapUnitHeight_eq,
      Nat.mul_comm, exactFrameHeightInMacroblocks]
  rw [frameHeight_eq, saturate_saturate_mul, Nat.mul_comm]

theorem sizeExact_of_ofUnit {unit : List UInt8} (isDecoded : ofUnit unit = .ok set) :
    set.SizeExact := by
  have chroma_le := chroma_le_of_ofUnit isDecoded
  constructor
  · intro coded_le
    rw [width, codedWidth_eq, saturate_of_le coded_le, cropUnitWidth_eq chroma_le]
    exact shownWidth_eq coded_le _ set.cropping
  · intro coded_le
    rw [height, codedHeight_eq, saturate_of_le coded_le, cropUnitHeight_eq chroma_le]
    exact shownHeight_eq coded_le _ set.cropping

end SequenceParameterSet

end Avc

/-! ## HEVC -/

namespace Hevc.SequenceParameterSet

variable {set : SequenceParameterSet}

/-- The size of the shown picture is exact. -/
structure SizeExact (set : SequenceParameterSet) : Prop where
  width_eq : (set.width : Int) =
    cropExactly set.codedWidth (subWidths.getD set.chroma 0) (sideMargins set.conformanceWindow)
  height_eq : (set.height : Int) =
    cropExactly set.codedHeight (subHeights.getD set.chroma 0) (edgeMargins set.conformanceWindow)

/-- Where the planes are separate the format is 4:4:4, whose chroma samples are as wide and as high as
the luma samples anyway. -/
theorem Bounded.codedChroma_eq_iff (bounded : set.Bounded) (format : Nat)
    (isSubsampled : format = 1 ∨ format = 2) :
    set.codedChroma = format ↔ set.chroma = format := by
  rw [codedChroma]
  split
  · next isSeparate =>
      rw [bounded.chroma_of_separatePlanes isSeparate]
      omega
  · exact Iff.rfl

theorem Bounded.chromaWidthRatio_eq (bounded : set.Bounded) :
    set.chromaWidthRatio = subWidths.getD set.chroma 0 := by
  rw [subWidths_getD bounded.chroma_le, chromaWidthRatio]
  simp only [bounded.codedChroma_eq_iff 1 (.inl rfl), bounded.codedChroma_eq_iff 2 (.inr rfl)]

theorem Bounded.chromaHeightRatio_eq (bounded : set.Bounded) :
    set.chromaHeightRatio = subHeights.getD set.chroma 0 := by
  rw [subHeights_getD bounded.chroma_le, chromaHeightRatio]
  simp only [bounded.codedChroma_eq_iff 1 (.inl rfl)]

theorem sizeExact_of_keepDecoded {unit : List UInt8}
    (isDecoded : Interruption.keepDecoded (ofUnit unit) = .ok set) : set.SizeExact := by
  have bounded := bounded_of_keepDecoded isDecoded
  constructor
  · rw [width, bounded.chromaWidthRatio_eq]
    exact shownWidth_eq (Nat.le_of_lt_succ bounded.codedWidth_lt) _ set.conformanceWindow
  · rw [height, bounded.chromaHeightRatio_eq]
    exact shownHeight_eq (Nat.le_of_lt_succ bounded.codedHeight_lt) _ set.conformanceWindow

end Hevc.SequenceParameterSet

/-! ## VVC -/

namespace Vvc.SequenceParameterSet

variable {set : SequenceParameterSet}

/-- The greatest size of a shown picture is exact. -/
structure SizeExact (set : SequenceParameterSet) : Prop where
  width_eq : (set.width : Int) =
    cropExactly set.maxWidth (subWidths.getD set.chroma 0) (sideMargins set.conformanceWindow)
  height_eq : (set.height : Int) =
    cropExactly set.maxHeight (subHeights.getD set.chroma 0) (edgeMargins set.conformanceWindow)

/-- What the grammar bounds of the format and the size. -/
structure Bounded (set : SequenceParameterSet) : Prop where
  chroma_le : set.chroma ≤ 3
  maxWidth_lt : set.maxWidth < ExpGolomb.unsignedLimit
  maxHeight_lt : set.maxHeight < ExpGolomb.unsignedLimit

theorem yields_bounded : Yields fields Bounded := by
  have sizeYields : Yields sizeDecoder fun size =>
      size.1 < ExpGolomb.unsignedLimit ∧ size.2 < ExpGolomb.unsignedLimit := by
    refine Yields.bind Yields.unsigned fun width width_lt => ?_
    refine Yields.bind Yields.unsigned fun height height_lt => ?_
    refine Yields.behind fun _ => ?_
    exact Yields.done ⟨width_lt, height_lt⟩
  iterate 3 refine Yields.behind fun _ => ?_
  refine Yields.bind (Yields.bits 2) fun chroma chroma_lt => ?_
  iterate 6 refine Yields.behind fun _ => ?_
  refine Yields.bind sizeYields fun size size_lt => ?_
  iterate 4 refine Yields.behind fun _ => ?_
  exact Yields.done ⟨Nat.le_of_lt_succ chroma_lt, size_lt.1, size_lt.2⟩

theorem bounded_of_keepDecoded {unit : List UInt8}
    (isDecoded : Interruption.keepDecoded (ofUnit unit) = .ok set) : set.Bounded := by
  have yields : Yields decoder fun result => result.1.Bounded := by
    iterate 2 refine Yields.behind fun _ => ?_
    exact Yields.bind (Yields.within yields_bounded) fun _ bounded => Yields.done bounded
  exact Yields.of_keepDecoded yields isDecoded

theorem sizeExact_of_keepDecoded {unit : List UInt8}
    (isDecoded : Interruption.keepDecoded (ofUnit unit) = .ok set) : set.SizeExact := by
  have bounded := bounded_of_keepDecoded isDecoded
  constructor
  · rw [subWidths_getD bounded.chroma_le, width]
    exact shownWidth_eq (Nat.le_of_lt_succ bounded.maxWidth_lt) _ set.conformanceWindow
  · rw [subHeights_getD bounded.chroma_le, height]
    exact shownHeight_eq (Nat.le_of_lt_succ bounded.maxHeight_lt) _ set.conformanceWindow

end Vvc.SequenceParameterSet

/-! ## All units -/

/-- The shown size of each set that is decoded is exact: in AVC where the coded size has no more than
32 bits, in HEVC and VVC always, also in a set that was decoded only in part. -/
theorem shownSizes_exact :
    (∀ unit set, Avc.SequenceParameterSet.ofUnit unit = .ok set → set.SizeExact) ∧
      (∀ unit set, Interruption.keepDecoded (Hevc.SequenceParameterSet.ofUnit unit) = .ok set →
        set.SizeExact) ∧
      ∀ unit set, Interruption.keepDecoded (Vvc.SequenceParameterSet.ofUnit unit) = .ok set →
        set.SizeExact :=
  ⟨fun _ _ => Avc.SequenceParameterSet.sizeExact_of_ofUnit,
    fun _ _ => Hevc.SequenceParameterSet.sizeExact_of_keepDecoded,
    fun _ _ => Vvc.SequenceParameterSet.sizeExact_of_keepDecoded⟩

/-- Frames of two fields, a set with extensions whose margins take all of a width of nearly 32 bits,
and margins that together do not fit 32 bits. -/
theorem shownSizes_exact_samples :
    let avcUnit : List UInt8 :=
      [0x67, 0x64, 0x00, 0x28, 0xac, 0xb2, 0x80, 0xf0, 0x08, 0x9e, 0x5b, 0x40]
    let hevcUnit : List UInt8 :=
      [0x42, 0x01, 0x01, 0x01, 0x60, 0x00, 0x00, 0x03, 0x00, 0x90, 0x00, 0x00, 0x03, 0x00, 0x00,
        0x03, 0x00, 0x78, 0xa0, 0x00, 0x00, 0x03, 0x00, 0x1f, 0xff, 0xff, 0xff, 0xe0, 0x00, 0x00,
        0x03, 0x00, 0x3f, 0xff, 0xff, 0xfe, 0xa0, 0x00, 0x00, 0x03, 0x00, 0x3f, 0xff, 0xff, 0xff,
        0xc0, 0x00, 0x00, 0x03, 0x00, 0x7f, 0xff, 0xff, 0xff, 0x98, 0x46, 0x59, 0x59, 0xbf, 0x2d,
        0x81, 0xff, 0xdb, 0x01]
    let vvcUnit : List UInt8 :=
      [0x00, 0x79, 0x00, 0x0c, 0x00, 0x00, 0x03, 0x00, 0x00, 0x7f, 0xff, 0xff, 0xff, 0x80, 0x11,
        0x06, 0x00, 0x00, 0x03, 0x00, 0x02, 0x00, 0x00, 0x03, 0x00, 0x02, 0x00, 0x00, 0x03, 0x00,
        0x03, 0xff, 0xff, 0xff, 0xfc, 0x00, 0x00, 0x03, 0x00, 0x07, 0xff, 0xff, 0xff, 0xf9, 0xc0]
    (∃ set, Avc.SequenceParameterSet.ofUnit avcUnit = .ok set ∧ set.SizeExact ∧
        16 * set.exactWidthInMacroblocks ≤ 4294967295 ∧
        16 * set.exactFrameHeightInMacroblocks ≤ 4294967295 ∧
        (set.width, set.height) = (1912, 1080)) ∧
      (∃ set, Interruption.keepDecoded (Hevc.SequenceParameterSet.ofUnit hevcUnit) = .ok set ∧
        set.SizeExact ∧ (set.width, set.height) = (0, 4294967265)) ∧
      ∃ set, Interruption.keepDecoded (Vvc.SequenceParameterSet.ofUnit vvcUnit) = .ok set ∧
        set.SizeExact ∧ (set.width, set.height) = (0, 0) := by
  intro avcUnit hevcUnit vvcUnit
  rcases shownSizes_exact with ⟨avcExact, hevcExact, vvcExact⟩
  obtain ⟨avcSet, avcDecoded, avcSize⟩ := exists_eq_ok_of_any
    (Avc.SequenceParameterSet.ofUnit avcUnit)
    (fun set => decide (16 * set.exactWidthInMacroblocks ≤ 4294967295 ∧
      16 * set.exactFrameHeightInMacroblocks ≤ 4294967295 ∧
      (set.width, set.height) = (1912, 1080))) (by decide +kernel)
  obtain ⟨hevcSet, hevcDecoded, hevcSize⟩ := exists_eq_ok_of_any
    (Interruption.keepDecoded (Hevc.SequenceParameterSet.ofUnit hevcUnit))
    (fun set => (set.width, set.height) == (0, 4294967265)) (by decide +kernel)
  obtain ⟨vvcSet, vvcDecoded, vvcSize⟩ := exists_eq_ok_of_any
    (Interruption.keepDecoded (Vvc.SequenceParameterSet.ofUnit vvcUnit))
    (fun set => (set.width, set.height) == (0, 0)) (by decide +kernel)
  refine ⟨⟨avcSet, avcDecoded, avcExact _ _ avcDecoded, of_decide_eq_true avcSize⟩,
    ⟨hevcSet, hevcDecoded, hevcExact _ _ hevcDecoded, eq_of_beq hevcSize⟩,
    ⟨vvcSet, vvcDecoded, vvcExact _ _ vvcDecoded, eq_of_beq vvcSize⟩⟩

end CodedVideo
