import CodedVideo.Proofs.CutShort
import CodedVideo.Proofs.Hevc.DecodedSets
import CodedVideo.Proofs.MachineWords

/-!
# Derived values of HEVC sequence parameter sets

A sequence parameter set says how its pictures are divided into blocks: sizes of blocks follow from
coded logarithms by sums and shifts, and numbers of blocks by division. What the grammar bounds keeps
each of these values in its range. Computed in machine words of 8 and 32 bits they are the same: no
sum overflows, no shift reaches the width of a word and nothing is divided by zero, even if a picture
is as wide and as high as 32 bits can say.

Main statement: `SequenceParameterSet.inRange_of_keepDecoded`.
-/

namespace CodedVideo.Hevc

/-- The values that sums, shifts and divisions derive from a sequence parameter set. -/
structure DerivedSizes where
  lumaDepth : Nat
  chromaDepth : Nat
  log2MaxPictureOrder : Nat
  log2MinCodingSize : Nat
  log2TreeSize : Nat
  treeSize : Nat
  widthInTreeBlocks : Nat
  heightInTreeBlocks : Nat
  sizeInTreeBlocks : Nat
  minTransformSize : Nat
  maxTransformSize : Nat
deriving DecidableEq, Repr

namespace SequenceParameterSet

/-- The low bits of the candidates for long-term reference. -/
def candidateLowBits (set : SequenceParameterSet) : List Nat :=
  (set.longTermCandidates.getD []).map (·.lowBits)

/-- Which candidates for long-term reference the current picture may use. -/
def candidatesUsed (set : SequenceParameterSet) : List Bool :=
  (set.longTermCandidates.getD []).map (·.used)

/-- The derived values as they are defined. -/
def derivedSizes (set : SequenceParameterSet) : DerivedSizes where
  lumaDepth := set.lumaDepth
  chromaDepth := set.chromaDepth
  log2MaxPictureOrder := set.log2MaxPictureOrder
  log2MinCodingSize := set.log2MinCodingSize
  log2TreeSize := set.log2TreeSize
  treeSize := set.treeSize
  widthInTreeBlocks := set.widthInTreeBlocks
  heightInTreeBlocks := set.heightInTreeBlocks
  sizeInTreeBlocks := set.sizeInTreeBlocks
  minTransformSize := set.minTransformSize
  maxTransformSize := set.maxTransformSize

/-- The derived values as words, if each step of each computation gives one: depths and logarithms
have 8 bits, sizes and numbers of blocks 32. A product that is capped always gives a word. -/
def derivedSizesInWords? (set : SequenceParameterSet) : Option DerivedSizes := do
  let lumaDepth ← Word.add? 8 8 set.lumaDepthMinus8
  let chromaDepth ← Word.add? 8 8 set.chromaDepthMinus8
  let log2MaxPictureOrder ← Word.add? 8 set.log2MaxPictureOrderMinus4 4
  let log2MinCodingSize ← Word.add? 8 set.blocks.log2MinCodingMinus3 3
  let log2TreeSize ← Word.add? 8 log2MinCodingSize set.blocks.log2CodingRange
  let treeSize ← Word.shiftLeft? 32 1 log2TreeSize
  let widthInTreeBlocks ← Word.divideUp? 32 set.codedWidth treeSize
  let heightInTreeBlocks ← Word.divideUp? 32 set.codedHeight treeSize
  let log2MinTransformSize ← Word.add? 8 set.blocks.log2MinTransformMinus2 2
  let minTransformSize ← Word.shiftLeft? 32 1 log2MinTransformSize
  let maxTransformSize ← Word.shiftLeft? 32 minTransformSize set.blocks.log2TransformRange
  return {
    lumaDepth, chromaDepth, log2MaxPictureOrder, log2MinCodingSize, log2TreeSize, treeSize,
    widthInTreeBlocks, heightInTreeBlocks,
    sizeInTreeBlocks := saturate (widthInTreeBlocks * heightInTreeBlocks)
    minTransformSize, maxTransformSize }

/-- The values that belong to a set are in their ranges. Coding blocks have 8 to 64 samples on each
side, transform blocks 4 to 32, and a picture is covered by the least number of coding tree
blocks. -/
structure InRange (set : SequenceParameterSet) : Prop where
  three_le_log2MinCodingSize : 3 ≤ set.log2MinCodingSize
  log2MinCodingSize_le : set.log2MinCodingSize ≤ set.log2TreeSize
  log2TreeSize_le : set.log2TreeSize ≤ 6
  minTransformSize_isPowerOfTwo : set.minTransformSize.isPowerOfTwo
  maxTransformSize_isPowerOfTwo : set.maxTransformSize.isPowerOfTwo
  four_le_minTransformSize : 4 ≤ set.minTransformSize
  minTransformSize_le : set.minTransformSize ≤ set.maxTransformSize
  maxTransformSize_le : set.maxTransformSize ≤ 32
  log2MaxPictureOrder_mem : 4 ≤ set.log2MaxPictureOrder ∧ set.log2MaxPictureOrder ≤ 16
  lumaDepth_mem : 8 ≤ set.lumaDepth ∧ set.lumaDepth ≤ 16
  chromaDepth_mem : 8 ≤ set.chromaDepth ∧ set.chromaDepth ≤ 16
  ordering_length : set.ordering.length = set.maxSubLayersMinus1 + 1
  /-- This holds by construction: a decoder adds to both lists in one step, so a set holds one list of
  pairs, and each of the two is a projection of it. -/
  candidates_length : set.candidateLowBits.length = set.candidatesUsed.length
  candidates_length_le : set.candidateLowBits.length ≤ 32
  widthInTreeBlocks_le_iff : ∀ count,
    set.widthInTreeBlocks ≤ count ↔ set.codedWidth ≤ count * set.treeSize
  heightInTreeBlocks_le_iff : ∀ count,
    set.heightInTreeBlocks ≤ count ↔ set.codedHeight ≤ count * set.treeSize
  sizeInTreeBlocks_eq :
    set.sizeInTreeBlocks = min (set.widthInTreeBlocks * set.heightInTreeBlocks) 4294967295
  width_le : set.width ≤ 4294967295
  height_le : set.height ≤ 4294967295
  maxStoredPictures_le : set.maxStoredPictures ≤ 4294967295

/-! ## Ranges -/

section

variable (set : SequenceParameterSet)

theorem treeSize_pos : 0 < set.treeSize := by
  rw [treeSize, Nat.one_shiftLeft]
  exact Nat.two_pow_pos _

theorem maxTransformSize_eq :
    set.maxTransformSize =
      1 <<< (set.blocks.log2MinTransformMinus2 + 2 + set.blocks.log2TransformRange) :=
  (Nat.shiftLeft_add _ _ _).symm

theorem treeBlocksOver_le_iff (size count : Nat) :
    set.treeBlocksOver size ≤ count ↔ size ≤ count * set.treeSize :=
  div_roundedUp_le_iff set.treeSize_pos

end

theorem width_le_codedWidth (set : SequenceParameterSet) : set.width ≤ set.codedWidth := by
  unfold width
  split
  · exact Nat.le_refl _
  · exact crop_le _ _ _ _

theorem height_le_codedHeight (set : SequenceParameterSet) : set.height ≤ set.codedHeight := by
  unfold height
  split
  · exact Nat.le_refl _
  · exact crop_le _ _ _ _

theorem maxStoredPictures_le_sizeLimit (set : SequenceParameterSet) :
    set.maxStoredPictures ≤ sizeLimit := by
  unfold maxStoredPictures
  split
  · decide
  · exact Nat.min_le_right _ _

variable {set : SequenceParameterSet}

theorem Bounded.log2TreeSize_le (bounded : set.Bounded) : set.log2TreeSize ≤ 6 := by
  have coding_le := bounded.blocks.coding_le
  unfold log2TreeSize log2MinCodingSize
  omega

theorem Bounded.maxTransformSize_le (bounded : set.Bounded) : set.maxTransformSize ≤ 32 := by
  have transform_le := bounded.blocks.transform_le
  have exponent_le : set.blocks.log2MinTransformMinus2 + 2 + set.blocks.log2TransformRange ≤ 5 := by
    omega
  rw [maxTransformSize_eq, Nat.one_shiftLeft]
  exact Nat.pow_le_pow_right Nat.two_pos exponent_le

theorem Bounded.inRange (bounded : set.Bounded) : set.InRange where
  three_le_log2MinCodingSize := Nat.le_add_left 3 _
  log2MinCodingSize_le := Nat.le_add_right _ _
  log2TreeSize_le := bounded.log2TreeSize_le
  minTransformSize_isPowerOfTwo := ⟨_, Nat.one_shiftLeft _⟩
  maxTransformSize_isPowerOfTwo := ⟨_, set.maxTransformSize_eq.trans (Nat.one_shiftLeft _)⟩
  four_le_minTransformSize := by
    rw [minTransformSize, Nat.one_shiftLeft]
    exact Nat.pow_le_pow_right (n := 2) Nat.two_pos (Nat.le_add_left 2 _)
  minTransformSize_le := by
    rw [minTransformSize, maxTransformSize_eq, Nat.one_shiftLeft, Nat.one_shiftLeft]
    exact Nat.pow_le_pow_right Nat.two_pos (Nat.le_add_right _ _)
  maxTransformSize_le := bounded.maxTransformSize_le
  log2MaxPictureOrder_mem :=
    ⟨Nat.le_add_left 4 _, Nat.add_le_add_right bounded.log2MaxPictureOrderMinus4_le 4⟩
  lumaDepth_mem := ⟨Nat.le_add_left 8 _, Nat.add_le_add_right bounded.lumaDepthMinus8_le 8⟩
  chromaDepth_mem := ⟨Nat.le_add_left 8 _, Nat.add_le_add_right bounded.chromaDepthMinus8_le 8⟩
  ordering_length := bounded.ordering_length
  candidates_length := by rw [candidateLowBits, candidatesUsed, List.length_map, List.length_map]
  candidates_length_le := by
    rw [candidateLowBits, List.length_map]
    cases isThere : set.longTermCandidates with
    | none => exact Nat.zero_le 32
    | some candidates => exact bounded.candidates_length_le candidates isThere
  widthInTreeBlocks_le_iff := set.treeBlocksOver_le_iff set.codedWidth
  heightInTreeBlocks_le_iff := set.treeBlocksOver_le_iff set.codedHeight
  sizeInTreeBlocks_eq := rfl
  width_le := Nat.le_trans set.width_le_codedWidth (Nat.le_of_lt_succ bounded.codedWidth_lt)
  height_le := Nat.le_trans set.height_le_codedHeight (Nat.le_of_lt_succ bounded.codedHeight_lt)
  maxStoredPictures_le := set.maxStoredPictures_le_sizeLimit

/-! ## Machine words -/

theorem Bounded.treeSize_lt (bounded : set.Bounded) : set.treeSize < 1 <<< 32 := by
  rw [treeSize, Nat.one_shiftLeft, Nat.one_shiftLeft]
  exact Nat.pow_lt_pow_right (by decide) (Nat.lt_of_le_of_lt bounded.log2TreeSize_le (by decide))

/-- Each step of each computation gives a word, and the word is the value. -/
theorem Bounded.derivedSizesInWords?_eq (bounded : set.Bounded) :
    set.derivedSizesInWords? = some set.derivedSizes := by
  have inRange := bounded.inRange
  have transform_le := bounded.blocks.transform_le
  have isByte {value : Nat} (value_le : value ≤ 16) : value < 1 <<< 8 :=
    Nat.lt_of_le_of_lt value_le (by decide)
  have isWord {size : Nat} (size_le : size ≤ 32) : size < 1 <<< 32 :=
    Nat.lt_of_le_of_lt size_le (by decide)
  have lumaDepth_eq : Word.add? 8 8 set.lumaDepthMinus8 = some set.lumaDepth :=
    Word.add?_eq_some (Nat.add_comm _ _) (isByte inRange.lumaDepth_mem.2)
  have chromaDepth_eq : Word.add? 8 8 set.chromaDepthMinus8 = some set.chromaDepth :=
    Word.add?_eq_some (Nat.add_comm _ _) (isByte inRange.chromaDepth_mem.2)
  have pictureOrder_eq :
      Word.add? 8 set.log2MaxPictureOrderMinus4 4 = some set.log2MaxPictureOrder :=
    Word.add?_eq_some rfl (isByte inRange.log2MaxPictureOrder_mem.2)
  have treeLog_le : set.log2TreeSize ≤ 16 := Nat.le_trans inRange.log2TreeSize_le (by decide)
  have minCoding_eq :
      Word.add? 8 set.blocks.log2MinCodingMinus3 3 = some set.log2MinCodingSize :=
    Word.add?_eq_some rfl (isByte (Nat.le_trans inRange.log2MinCodingSize_le treeLog_le))
  have treeLog_eq :
      Word.add? 8 set.log2MinCodingSize set.blocks.log2CodingRange = some set.log2TreeSize :=
    Word.add?_eq_some rfl (isByte treeLog_le)
  have treeSize_eq : Word.shiftLeft? 32 1 set.log2TreeSize = some set.treeSize :=
    Word.shiftLeft?_eq_some (Nat.lt_of_le_of_lt inRange.log2TreeSize_le (by decide))
      bounded.treeSize_lt
  have treeBlocks_eq {size : Nat} (size_lt : size < ExpGolomb.unsignedLimit) :
      Word.divideUp? 32 size set.treeSize = some (set.treeBlocksOver size) :=
    Word.divideUp?_eq_some set.treeSize_pos size_lt
  have minTransformLog_eq : Word.add? 8 set.blocks.log2MinTransformMinus2 2 =
      some (set.blocks.log2MinTransformMinus2 + 2) :=
    Word.add?_eq_some rfl (isByte (by omega))
  have minTransform_eq : Word.shiftLeft? 32 1 (set.blocks.log2MinTransformMinus2 + 2) =
      some set.minTransformSize :=
    Word.shiftLeft?_eq_some (by omega)
      (isWord (Nat.le_trans inRange.minTransformSize_le inRange.maxTransformSize_le))
  have maxTransform_eq : Word.shiftLeft? 32 set.minTransformSize set.blocks.log2TransformRange =
      some set.maxTransformSize :=
    Word.shiftLeft?_eq_some (by omega)
      (isWord inRange.maxTransformSize_le)
  simp only [derivedSizesInWords?, lumaDepth_eq, chromaDepth_eq, pictureOrder_eq, minCoding_eq,
    treeLog_eq, treeSize_eq, treeBlocks_eq bounded.codedWidth_lt,
    treeBlocks_eq bounded.codedHeight_lt, minTransformLog_eq, minTransform_eq, maxTransform_eq,
    Option.bind_eq_bind, Option.bind_some]
  rfl

/-! ## Units -/

/-- Of every set that is decoded, at least up to its extensions, the derived values are in range and
the same in machine words. -/
theorem inRange_of_keepDecoded {unit : List UInt8}
    (isDecoded : Interruption.keepDecoded (ofUnit unit) = .ok set) :
    set.InRange ∧ set.derivedSizesInWords? = some set.derivedSizes := by
  have bounded := bounded_of_keepDecoded isDecoded
  exact ⟨bounded.inRange, bounded.derivedSizesInWords?_eq⟩

/-- A set with extensions and pictures of nearly `2 ^ 32` samples on each side. -/
theorem inRange_of_keepDecoded_wide_sample :
    let unit : List UInt8 :=
      [0x42, 0x01, 0x01, 0x01, 0x60, 0x00, 0x00, 0x03, 0x00, 0x90, 0x00, 0x00, 0x03, 0x00, 0x00,
        0x03, 0x00, 0x78, 0xa0, 0x00, 0x00, 0x03, 0x00, 0x1f, 0xff, 0xff, 0xff, 0xe0, 0x00, 0x00,
        0x03, 0x00, 0x3f, 0xff, 0xff, 0xfe, 0xa0, 0x00, 0x00, 0x03, 0x00, 0x3f, 0xff, 0xff, 0xff,
        0xc0, 0x00, 0x00, 0x03, 0x00, 0x7f, 0xff, 0xff, 0xff, 0x98, 0x46, 0x59, 0x59, 0xbf, 0x2d,
        0x81, 0xff, 0xdb, 0x01]
    ∃ set, Interruption.keepDecoded (ofUnit unit) = .ok set ∧ set.extensions.any = true ∧
      set.codedWidth = 4294967294 ∧ set.codedHeight = 4294967289 ∧ set.InRange ∧
      set.derivedSizesInWords? = some set.derivedSizes := by
  intro unit
  obtain ⟨set, isDecoded, isWide⟩ := exists_eq_ok_of_any (Interruption.keepDecoded (ofUnit unit))
    (fun set => set.extensions.any && set.codedWidth == 4294967294 &&
      set.codedHeight == 4294967289) (by decide +kernel)
  simp only [Bool.and_eq_true, beq_iff_eq] at isWide
  exact ⟨set, isDecoded, isWide.1.1, isWide.1.2, isWide.2, inRange_of_keepDecoded isDecoded⟩

end SequenceParameterSet

end CodedVideo.Hevc
