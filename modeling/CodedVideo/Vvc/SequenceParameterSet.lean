import CodedVideo.Saturation
import CodedVideo.Vvc.NalUnit
import CodedVideo.Vvc.ProfileTierLevel
import CodedVideo.Window

/-!
# VVC sequence parameter sets

Of a sequence parameter set (SPS) the leading fields are decoded, down to the bit depth, or to the
layout of subpictures if there is one. Decoding never reaches the end of the unit, so a set is
always incomplete.
-/

namespace CodedVideo.Vvc

/-- The leading fields of a sequence parameter set. -/
structure SequenceParameterSet where
  id : Nat
  /-- Zero if no video parameter set is referred to. -/
  videoSetId : Nat
  maxSubLayersMinus1 : Nat
  /-- Monochrome, 4:2:0, 4:2:2 or 4:4:4. -/
  chroma : Nat
  log2TreeSizeMinus5 : Nat
  profileTierLevel : Option ProfileTierLevel
  gradualRefresh : Bool
  resampling : Bool
  /-- The resolution may change within a coded video sequence; only coded with resampling. -/
  resolutionChanges : Bool
  /-- The greatest width of a picture in luma samples. -/
  maxWidth : Nat
  /-- The greatest height of a picture in luma samples. -/
  maxHeight : Nat
  /-- The part of a picture that is shown, in units of chroma samples. -/
  conformanceWindow : Option Window
  /-- What is read of the bit depth; nothing if the layout of subpictures stands in front of it. -/
  depthMinus8 : Option Nat
deriving DecidableEq, Repr

namespace SequenceParameterSet

/-- The name under which errors report the structure. -/
def structureName : String := "SPS"

/-- What is not decoded behind the bit depth. -/
def stopBehindDepth : String := "fields after sps_bitdepth_minus8"

/-- What is not decoded in front of the bit depth. -/
def stopAtSubpictures : String := "subpicture info"

/-! ## Grammar -/

open Decoder

/-- The number of temporal sub-layers, less one. -/
def subLayersDecoder : Decoder Nat := do
  let minus1 ← bits 3
  require (minus1 ≤ 6) (.malformed structureName s!"sps_max_sublayers_minus1 {minus1} out of range")
  return minus1

/-- The binary logarithm of the coding tree block size, less five. -/
def treeSizeDecoder : Decoder Nat := do
  let minus5 ← bits 2
  require (minus5 ≤ 2) (.malformed structureName "sps_log2_ctu_size_minus5 is reserved value 3")
  return minus5

/-- The greatest width and height of a picture. -/
def sizeDecoder : Decoder (Nat × Nat) := do
  let width ← unsigned
  let height ← unsigned
  require (width != 0 && height != 0) (.malformed structureName "zero maximum picture size")
  return (width, height)

/-- The fields behind the header, up to the place where decoding stops. -/
def fields : Decoder SequenceParameterSet := do
  let id ← bits 4
  let videoSetId ← bits 4
  let maxSubLayersMinus1 ← subLayersDecoder
  let chroma ← bits 2
  let log2TreeSizeMinus5 ← treeSizeDecoder
  let profileTierLevel ← optional (← flag) (ProfileTierLevel.decoder true maxSubLayersMinus1)
  let gradualRefresh ← flag
  let resampling ← flag
  let resolutionChanges ← whenElse resampling false flag
  let (maxWidth, maxHeight) ← sizeDecoder
  let conformanceWindow ← optional (← flag) Window.decoder
  let subpictures ← flag
  let depthMinus8 ← optional (!subpictures) (boundedUnsigned structureName "sps_bitdepth_minus8" 8)
  return {
    id, videoSetId, maxSubLayersMinus1, chroma, log2TreeSizeMinus5, profileTierLevel,
    gradualRefresh, resampling, resolutionChanges, maxWidth, maxHeight, conformanceWindow,
    depthMinus8 }

/-- The layout of subpictures stands in front of the bit depth. -/
def hasSubpictures (set : SequenceParameterSet) : Bool :=
  set.depthMinus8.isNone

/-- What comes next in the unit and is not decoded. -/
def stop (set : SequenceParameterSet) : String :=
  if set.hasSubpictures then stopAtSubpictures else stopBehindDepth

/-- The grammar of a unit, up to the place where decoding stops. -/
def decoder : Decoder (SequenceParameterSet × Option Error) := do
  let header ← NalHeader.decoder
  require (header.unitType == .sps) (.wrongUnitType structureName header.unitType.code)
  let set ← located structureName fields
  return (set, some (.unsupported structureName set.stop))

/-- Decodes a sequence parameter set from its unit. -/
def ofUnit (unit : List UInt8) : Except (Interruption SequenceParameterSet) SequenceParameterSet :=
  decoder.decodeUnitPartly unit

/-! ## Derived values -/

/-- The profile, if it is coded and a known one. -/
def profile? (set : SequenceParameterSet) : Option Profile :=
  set.profileTierLevel.bind (·.profile?)

/-- The tier, if it is coded. -/
def tier? (set : SequenceParameterSet) : Option Tier :=
  set.profileTierLevel.map (·.tier)

/-- The level, if it is coded. -/
def level? (set : SequenceParameterSet) : Option Level :=
  set.profileTierLevel.map (·.level)

/-- The number of temporal sub-layers. -/
def maxSubLayers (set : SequenceParameterSet) : Nat :=
  set.maxSubLayersMinus1 + 1

/-- The binary logarithm of the coding tree block size. -/
def log2TreeSize (set : SequenceParameterSet) : Nat :=
  set.log2TreeSizeMinus5 + 5

/-- The coding tree block size in luma samples. -/
def treeSize (set : SequenceParameterSet) : Nat :=
  1 <<< set.log2TreeSize

/-- The number of coding tree blocks that cover `size` luma samples. -/
def treeBlocksOver (set : SequenceParameterSet) (size : Nat) : Nat :=
  (size + (set.treeSize - 1)) / set.treeSize

/-- The greatest width of a picture in coding tree blocks. -/
def maxWidthInTreeBlocks (set : SequenceParameterSet) : Nat :=
  set.treeBlocksOver set.maxWidth

/-- The greatest height of a picture in coding tree blocks. -/
def maxHeightInTreeBlocks (set : SequenceParameterSet) : Nat :=
  set.treeBlocksOver set.maxHeight

/-- The width of a chroma sample in luma samples. -/
def chromaWidthRatio (set : SequenceParameterSet) : Nat :=
  if set.chroma = 1 ∨ set.chroma = 2 then 2 else 1

/-- The height of a chroma sample in luma samples. -/
def chromaHeightRatio (set : SequenceParameterSet) : Nat :=
  if set.chroma = 1 then 2 else 1

/-- The greatest width of a shown picture in luma samples. -/
def width (set : SequenceParameterSet) : Nat :=
  match set.conformanceWindow with
  | none => set.maxWidth
  | some window => crop set.maxWidth set.chromaWidthRatio window.left window.right

/-- The greatest height of a shown picture in luma samples. -/
def height (set : SequenceParameterSet) : Nat :=
  match set.conformanceWindow with
  | none => set.maxHeight
  | some window => crop set.maxHeight set.chromaHeightRatio window.top window.bottom

/-- The number of bits in a sample, if it was read. -/
def depth? (set : SequenceParameterSet) : Option Nat :=
  set.depthMinus8.map (· + 8)

end SequenceParameterSet

end CodedVideo.Vvc
