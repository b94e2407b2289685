import CodedVideo.Hevc.ExtensionFlags
import CodedVideo.Hevc.NalUnit
import CodedVideo.Hevc.ProfileTierLevel
import CodedVideo.Hevc.ScalingList
import CodedVideo.Hevc.ShortTermSet
import CodedVideo.Hevc.SubLayerOrdering
import CodedVideo.Hevc.VideoUsability
import CodedVideo.Saturation

/-!
# HEVC sequence parameter sets

A sequence parameter set (SPS) holds for a whole coded video sequence: profile, tier and level, the
size and format of the pictures, the sizes of the blocks they are coded in, and the reference
picture sets that slices can choose from. Where extensions follow, decoding stops in front of them
and the set is incomplete.
-/

namespace CodedVideo.Hevc

/-! ## Parts -/

/-- The sizes of coding and transform blocks, and how deep blocks are split. -/
structure BlockSizes where
  log2MinCodingMinus3 : Nat
  log2CodingRange : Nat
  log2MinTransformMinus2 : Nat
  log2TransformRange : Nat
  maxTransformDepthInter : Nat
  maxTransformDepthIntra : Nat
deriving DecidableEq, Repr

/-- How transform coefficients are scaled. -/
inductive Scaling where
  /-- All alike. -/
  | flat
  /-- By the default lists. -/
  | standard
  /-- By coded lists. -/
  | coded (lists : ScalingLists)
deriving DecidableEq, Repr

/-- Blocks whose samples are coded as they are. -/
structure PcmBlocks where
  lumaDepthMinus1 : Nat
  chromaDepthMinus1 : Nat
  log2MinSizeMinus3 : Nat
  log2SizeRange : Nat
  loopFilterDisabled : Bool
deriving DecidableEq, Repr

/-- A long-term reference picture that slices can choose. -/
structure LongTermCandidate where
  /-- The low bits of its picture order count. -/
  lowBits : Nat
  /-- The current picture itself may refer to it. -/
  used : Bool
deriving DecidableEq, Repr

/-- A sequence parameter set. -/
structure SequenceParameterSet where
  videoSetId : Nat
  maxSubLayersMinus1 : Nat
  temporalIdNesting : Bool
  profileTierLevel : ProfileTierLevel
  id : Nat
  /-- Monochrome, 4:2:0, 4:2:2 or 4:4:4. -/
  chroma : Nat
  /-- The three planes of 4:4:4 are coded like three monochrome pictures. -/
  separatePlanes : Bool
  /-- The width of a coded picture in luma samples. -/
  codedWidth : Nat
  /-- The height of a coded picture in luma samples. -/
  codedHeight : Nat
  /-- The part of a picture that is shown, in units of chroma samples. -/
  conformanceWindow : Option Window
  lumaDepthMinus8 : Nat
  chromaDepthMinus8 : Nat
  log2MaxPictureOrderMinus4 : Nat
  orderingOfEach : Bool
  /-- One entry for each sub-layer. -/
  ordering : List SubLayerOrdering
  blocks : BlockSizes
  scaling : Scaling
  asymmetricPartitions : Bool
  sampleAdaptiveOffset : Bool
  pcm : Option PcmBlocks
  shortTermSets : List ShortTermSet
  /-- The candidates for long-term reference, where long-term reference is in use. -/
  longTermCandidates : Option (List LongTermCandidate)
  temporalMotionPrediction : Bool
  strongIntraSmoothing : Bool
  usability : Option VideoUsability
  extensions : ExtensionFlags
deriving DecidableEq, Repr

/-! ## Grammar -/

open Decoder

namespace SequenceParameterSet

/-- The name under which errors report the structure. -/
def structureName : String := "SPS"

/-- An unsigned code of at most `limit`, a field of the structure. -/
def bounded (name : String) (limit : Nat) : Decoder Nat :=
  boundedUnsigned structureName name limit

end SequenceParameterSet

open SequenceParameterSet (bounded)

/-- The grammar of block sizes: no coding block is greater than 64 samples and no transform block
greater than 32. -/
def BlockSizes.decoder : Decoder BlockSizes := do
  let log2MinCodingMinus3 ← bounded "log2_min_luma_coding_block_size_minus3" 3
  let log2CodingRange ← bounded "log2_diff_max_min_luma_coding_block_size" (3 - log2MinCodingMinus3)
  let log2MinTransformMinus2 ← bounded "log2_min_luma_transform_block_size_minus2" 3
  let log2TransformRange ←
    bounded "log2_diff_max_min_luma_transform_block_size" (3 - log2MinTransformMinus2)
  let maxTransformDepthInter ← unsigned
  let maxTransformDepthIntra ← unsigned
  return {
    log2MinCodingMinus3, log2CodingRange, log2MinTransformMinus2, log2TransformRange,
    maxTransformDepthInter, maxTransformDepthIntra }

/-- The grammar of scaling: a flag for any lists, and one for coded ones. -/
def Scaling.decoder : Decoder Scaling := do
  if ← flag then
    if ← flag then return coded (← ScalingLists.decoder) else return standard
  else return flat

/-- The grammar of blocks whose samples are coded as they are. -/
def PcmBlocks.decoder : Decoder PcmBlocks := do
  let lumaDepthMinus1 ← bits 4
  let chromaDepthMinus1 ← bits 4
  let log2MinSizeMinus3 ← unsigned
  let log2SizeRange ← unsigned
  let loopFilterDisabled ← flag
  return {
    lumaDepthMinus1, chromaDepthMinus1, log2MinSizeMinus3, log2SizeRange, loopFilterDisabled }

/-- The grammar of a candidate for long-term reference, whose low bits have a given width. -/
def LongTermCandidate.decoder (width : Nat) : Decoder LongTermCandidate := do
  let lowBits ← bits width
  let used ← flag
  return { lowBits, used }

namespace SequenceParameterSet

/-- The candidates for long-term reference. -/
def longTermDecoder (width : Nat) : Decoder (List LongTermCandidate) := do
  replicate (← bounded "num_long_term_ref_pics_sps" 32) (LongTermCandidate.decoder width)

/-- The fields behind the header, up to the extension flags. -/
def fields : Decoder SequenceParameterSet := do
  let videoSetId ← bits 4
  let maxSubLayersMinus1 ← bits 3
  let temporalIdNesting ← flag
  let profileTierLevel ← ProfileTierLevel.decoder true maxSubLayersMinus1
  let id ← bounded "sps_seq_parameter_set_id" 15
  let chroma ← bounded "chroma_format_idc" 3
  let separatePlanes ← whenElse (chroma == 3) false flag
  let codedWidth ← unsigned
  let codedHeight ← unsigned
  let conformanceWindow ← optional (← flag) Window.decoder
  let lumaDepthMinus8 ← bounded "bit_depth_luma_minus8" 8
  let chromaDepthMinus8 ← bounded "bit_depth_chroma_minus8" 8
  let log2MaxPictureOrderMinus4 ← bounded "log2_max_pic_order_cnt_lsb_minus4" 12
  let orderingOfEach ← flag
  let ordering ← SubLayerOrdering.listDecoder orderingOfEach maxSubLayersMinus1
  let blocks ← BlockSizes.decoder
  let scaling ← Scaling.decoder
  let asymmetricPartitions ← flag
  let sampleAdaptiveOffset ← flag
  let pcm ← optional (← flag) PcmBlocks.decoder
  let shortTermSets ← ShortTermSet.sequenceDecoder (← bounded "num_short_term_ref_pic_sets" 64)
  let longTermCandidates ← optional (← flag) (longTermDecoder (log2MaxPictureOrderMinus4 + 4))
  let temporalMotionPrediction ← flag
  let strongIntraSmoothing ← flag
  let usability ← optional (← flag) (VideoUsability.decoder maxSubLayersMinus1)
  let extensions ← ExtensionFlags.decoder
  return {
    videoSetId, maxSubLayersMinus1, temporalIdNesting, profileTierLevel, id, chroma, separatePlanes,
    codedWidth, codedHeight, conformanceWindow, lumaDepthMinus8, chromaDepthMinus8,
    log2MaxPictureOrderMinus4, orderingOfEach, ordering, blocks, scaling, asymmetricPartitions,
    sampleAdaptiveOffset, pcm, shortTermSets, longTermCandidates, temporalMotionPrediction,
    strongIntraSmoothing, usability, extensions }

/-- The grammar of a unit. Decoding stops in front of extensions; otherwise trailing bits follow. -/
def decoder : Decoder (SequenceParameterSet × Option Error) := do
  let header ← NalHeader.decoder
  require (header.unitType == .sps) (.wrongUnitType structureName header.unitType.code)
  let set ← located structureName fields
  if set.extensions.any then return (set, some (.unsupported structureName "SPS extensions"))
  else
    located structureName trailingBits
    return (set, none)

/-- Decodes a sequence parameter set from its unit. -/
def ofUnit (unit : List UInt8) : Except (Interruption SequenceParameterSet) SequenceParameterSet :=
  decoder.decodeUnitPartly unit

/-! ## Derived values -/

/-- The format of the chroma samples that are coded with the luma samples; zero if none are. -/
def codedChroma (set : SequenceParameterSet) : Nat :=
  if set.separatePlanes then 0 else set.chroma

/-- The width of a chroma sample in luma samples. -/
def chromaWidthRatio (set : SequenceParameterSet) : Nat :=
  if set.codedChroma = 1 ∨ set.codedChroma = 2 then 2 else 1

/-- The height of a chroma sample in luma samples. -/
def chromaHeightRatio (set : SequenceParameterSet) : Nat :=
  if set.codedChroma = 1 then 2 else 1

/-- The width of the shown picture in luma samples. -/
def width (set : SequenceParameterSet) : Nat :=
  match set.conformanceWindow with
  | none => set.codedWidth
  | some window => crop set.codedWidth set.chromaWidthRatio window.left window.right

/-- The height of the shown picture in luma samples. -/
def height (set : SequenceParameterSet) : Nat :=
  match set.conformanceWindow with
  | none => set.codedHeight
  | some window => crop set.codedHeight set.chromaHeightRatio window.top window.bottom

/-- The number of bits in a luma sample. -/
def lumaDepth (set : SequenceParameterSet) : Nat :=
  set.lumaDepthMinus8 + 8

/-- The number of bits in a chroma sample. -/
def chromaDepth (set : SequenceParameterSet) : Nat :=
  set.chromaDepthMinus8 + 8

/-- The width of the low bits of a picture order count. -/
def log2MaxPictureOrder (set : SequenceParameterSet) : Nat :=
  set.log2MaxPictureOrderMinus4 + 4

/-- The binary logarithm of the least coding block size. -/
def log2MinCodingSize (set : SequenceParameterSet) : Nat :=
  set.blocks.log2MinCodingMinus3 + 3

/-- The binary logarithm of the coding tree block size. -/
def log2TreeSize (set : SequenceParameterSet) : Nat :=
  set.log2MinCodingSize + set.blocks.log2CodingRange

/-- The coding tree block size in luma samples. -/
def treeSize (set : SequenceParameterSet) : Nat :=
  1 <<< set.log2TreeSize

/-- The number of coding tree blocks that cover `size` luma samples. -/
def treeBlocksOver (set : SequenceParameterSet) (size : Nat) : Nat :=
  (size + (set.treeSize - 1)) / set.treeSize

/-- The width of a picture in coding tree blocks. -/
def widthInTreeBlocks (set : SequenceParameterSet) : Nat :=
  set.treeBlocksOver set.codedWidth

/-- The height of a picture in coding tree blocks. -/
def heightInTreeBlocks (set : SequenceParameterSet) : Nat :=
  set.treeBlocksOver set.codedHeight

/-- The number of coding tree blocks in a picture. -/
def sizeInTreeBlocks (set : SequenceParameterSet) : Nat :=
  saturate (set.widthInTreeBlocks * set.heightInTreeBlocks)

/-- The least transform block size in samples. -/
def minTransformSize (set : SequenceParameterSet) : Nat :=
  1 <<< (set.blocks.log2MinTransformMinus2 + 2)

/-- The greatest transform block size in samples. -/
def maxTransformSize (set : SequenceParameterSet) : Nat :=
  set.minTransformSize <<< set.blocks.log2TransformRange

/-- The number of pictures that the highest sub-layer keeps. -/
def maxStoredPictures (set : SequenceParameterSet) : Nat :=
  match set.ordering.getLast? with
  | none => 1
  | some highest => saturate (highest.maxStoredPicturesMinus1 + 1)

/-- The sample aspect ratio, if it is coded and its width is not zero. -/
def aspectRatio? (set : SequenceParameterSet) : Option AspectRatio :=
  set.usability.bind (·.signal.aspectRatio?)

/-- A number of pictures and the number of seconds they take, if they are coded. -/
def frameRate? (set : SequenceParameterSet) : Option (Nat × Nat) :=
  (set.usability.bind (·.timing)).bind Timing.frameRate?

/-- The name of the codec with its profile, tier and level, as media types carry it. -/
def codecString (set : SequenceParameterSet) : String :=
  set.profileTierLevel.codecString "hvc1"

end SequenceParameterSet

end CodedVideo.Hevc
