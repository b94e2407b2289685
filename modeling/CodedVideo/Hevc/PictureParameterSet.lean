import CodedVideo.Hevc.ExtensionFlags
import CodedVideo.Hevc.NalUnit
import CodedVideo.Hevc.ScalingList
import CodedVideo.Saturation

/-!
# HEVC picture parameter sets

A picture parameter set (PPS) holds for some pictures of a sequence. Its range extension is decoded;
where other extensions follow, decoding stops in front of them and the set is incomplete.
-/

namespace CodedVideo.Hevc

/-! ## Parts -/

/-- The sizes of tiles that differ, in coding tree blocks; those of the last column and row are what
is left over. -/
structure TileSizes where
  columnWidthsMinus1 : List Nat
  rowHeightsMinus1 : List Nat
deriving DecidableEq, Repr

/-- A grid of tiles. -/
structure TileGrid where
  columnsMinus1 : Nat
  rowsMinus1 : Nat
  /-- The sizes of the tiles, unless they are spread evenly. -/
  sizes : Option TileSizes
  loopFilterAcross : Bool
deriving DecidableEq, Repr

/-- How block edges are filtered. -/
structure DeblockingControl where
  overrideEnabled : Bool
  disabled : Bool
  betaOffsetDiv2 : Int
  tcOffsetDiv2 : Int
deriving DecidableEq, Repr

/-- The quantiser offsets that blocks can choose for the two chroma planes. -/
structure ChromaOffsetLists where
  depth : Nat
  /-- Pairs of offsets, at least one. -/
  offsets : List (Int × Int)
deriving DecidableEq, Repr

/-- The range extension. -/
structure PictureRangeExtension where
  /-- Only coded where transforms can be skipped. -/
  log2MaxTransformSkipMinus2 : Nat
  crossComponentPrediction : Bool
  chromaOffsetLists : Option ChromaOffsetLists
  log2LumaOffsetScale : Nat
  log2ChromaOffsetScale : Nat
deriving DecidableEq, Repr

/-- A picture parameter set. -/
structure PictureParameterSet where
  id : Nat
  sequenceId : Nat
  dependentSegments : Bool
  outputFlagPresent : Bool
  /-- The number of reserved flags in each slice header. -/
  reservedFlagCount : Nat
  signDataHiding : Bool
  arithmeticInitPresent : Bool
  defaultActiveList0Minus1 : Nat
  defaultActiveList1Minus1 : Nat
  initialQpMinus26 : Int
  constrainedIntraPrediction : Bool
  transformSkip : Bool
  /-- The depth down to which blocks code quantiser differences, if they do. -/
  qpDeltaDepth : Option Nat
  cbQpOffset : Int
  crQpOffset : Int
  sliceChromaOffsetsPresent : Bool
  weightedPrediction : Bool
  weightedBiprediction : Bool
  transquantBypass : Bool
  entropySynchronisation : Bool
  tiles : Option TileGrid
  loopFilterAcrossSlices : Bool
  deblocking : Option DeblockingControl
  scalingLists : Option ScalingLists
  listModificationPresent : Bool
  log2MergeLevelMinus2 : Nat
  headerExtensionPresent : Bool
  extensions : ExtensionFlags
  rangeExtension : Option PictureRangeExtension
deriving DecidableEq, Repr

/-! ## Grammar -/

open Decoder

namespace PictureParameterSet

/-- The name under which errors report the structure. -/
def structureName : String := "PPS"

/-- An unsigned code of at most `limit`, a field of the structure. -/
def bounded (name : String) (limit : Nat) : Decoder Nat :=
  boundedUnsigned structureName name limit

end PictureParameterSet

open PictureParameterSet (bounded)

/-- The grammar of tile sizes. -/
def TileSizes.decoder (columnsMinus1 rowsMinus1 : Nat) : Decoder TileSizes := do
  let columnWidthsMinus1 ← replicate columnsMinus1 unsigned
  let rowHeightsMinus1 ← replicate rowsMinus1 unsigned
  return { columnWidthsMinus1, rowHeightsMinus1 }

namespace TileGrid

/-- The greatest number of columns and of rows. -/
def maxTiles : Nat := 1024

/-- The grammar of a grid of tiles. -/
def decoder : Decoder TileGrid := do
  let columnsMinus1 ← unsigned
  let rowsMinus1 ← unsigned
  require (columnsMinus1 < maxTiles && rowsMinus1 < maxTiles)
    (.malformed PictureParameterSet.structureName
      s!"{columnsMinus1}x{rowsMinus1} tile grid out of range")
  let uniform ← flag
  let sizes ← optional (!uniform) (TileSizes.decoder columnsMinus1 rowsMinus1)
  let loopFilterAcross ← flag
  return { columnsMinus1, rowsMinus1, sizes, loopFilterAcross }

/-- The number of tiles. -/
def size (grid : TileGrid) : Nat :=
  (grid.columnsMinus1 + 1) * (grid.rowsMinus1 + 1)

end TileGrid

/-- The grammar of the filtering of block edges; with the filter off there are no offsets. -/
def DeblockingControl.decoder : Decoder DeblockingControl := do
  let overrideEnabled ← flag
  let disabled ← flag
  let betaOffsetDiv2 ← whenElse (!disabled) 0 signed
  let tcOffsetDiv2 ← whenElse (!disabled) 0 signed
  return { overrideEnabled, disabled, betaOffsetDiv2, tcOffsetDiv2 }

/-- The grammar of the quantiser offsets for chroma. -/
def ChromaOffsetLists.decoder : Decoder ChromaOffsetLists := do
  let depth ← unsigned
  let lengthMinus1 ← bounded "chroma_qp_offset_list_len_minus1" 5
  let offsets ← replicate (lengthMinus1 + 1) do
    let cb ← signed
    let cr ← signed
    return (cb, cr)
  return { depth, offsets }

/-- The grammar of the range extension. -/
def PictureRangeExtension.decoder (transformSkip : Bool) : Decoder PictureRangeExtension := do
  let log2MaxTransformSkipMinus2 ← whenElse transformSkip 0 unsigned
  let crossComponentPrediction ← flag
  let chromaOffsetLists ← optional (← flag) ChromaOffsetLists.decoder
  let log2LumaOffsetScale ← unsigned
  let log2ChromaOffsetScale ← unsigned
  return {
    log2MaxTransformSkipMinus2, crossComponentPrediction, chromaOffsetLists, log2LumaOffsetScale,
    log2ChromaOffsetScale }

namespace PictureParameterSet

/-- The fields behind the header, up to the range extension. -/
def fields : Decoder PictureParameterSet := do
  let id ← bounded "pps_pic_parameter_set_id" 63
  let sequenceId ← bounded "pps_seq_parameter_set_id" 15
  let dependentSegments ← flag
  let outputFlagPresent ← flag
  let reservedFlagCount ← bits 3
  let signDataHiding ← flag
  let arithmeticInitPresent ← flag
  let defaultActiveList0Minus1 ← bounded "num_ref_idx_l0_default_active_minus1" 14
  let defaultActiveList1Minus1 ← bounded "num_ref_idx_l1_default_active_minus1" 14
  let initialQpMinus26 ← signed
  let constrainedIntraPrediction ← flag
  let transformSkip ← flag
  let qpDeltaDepth ← optional (← flag) (bounded "diff_cu_qp_delta_depth" 3)
  let cbQpOffset ← signed
  let crQpOffset ← signed
  let sliceChromaOffsetsPresent ← flag
  let weightedPrediction ← flag
  let weightedBiprediction ← flag
  let transquantBypass ← flag
  let tilesPresent ← flag
  let entropySynchronisation ← flag
  let tiles ← optional tilesPresent TileGrid.decoder
  let loopFilterAcrossSlices ← flag
  let deblocking ← optional (← flag) DeblockingControl.decoder
  let scalingLists ← optional (← flag) ScalingLists.decoder
  let listModificationPresent ← flag
  let log2MergeLevelMinus2 ← bounded "log2_parallel_merge_level_minus2" 4
  let headerExtensionPresent ← flag
  let extensions ← ExtensionFlags.decoder
  let rangeExtension ← optional extensions.range (PictureRangeExtension.decoder transformSkip)
  return {
    id, sequenceId, dependentSegments, outputFlagPresent, reservedFlagCount, signDataHiding,
    arithmeticInitPresent, defaultActiveList0Minus1, defaultActiveList1Minus1, initialQpMinus26,
    constrainedIntraPrediction, transformSkip, qpDeltaDepth, cbQpOffset, crQpOffset,
    sliceChromaOffsetsPresent, weightedPrediction, weightedBiprediction, transquantBypass,
    entropySynchronisation, tiles, loopFilterAcrossSlices, deblocking, scalingLists,
    listModificationPresent, log2MergeLevelMinus2, headerExtensionPresent, extensions,
    rangeExtension }

/-- The grammar of a unit. Decoding stops in front of the extensions that are not decoded;
otherwise trailing bits follow. -/
def decoder : Decoder (PictureParameterSet × Option Error) := do
  let header ← NalHeader.decoder
  require (header.unitType == .pps) (.wrongUnitType structureName header.unitType.code)
  let set ← located structureName fields
  if set.extensions.beyondRange then
    return (set, some (.unsupported structureName "PPS extensions"))
  else
    located structureName trailingBits
    return (set, none)

/-- Decodes a picture parameter set from its unit. -/
def ofUnit (unit : List UInt8) : Except (Interruption PictureParameterSet) PictureParameterSet :=
  decoder.decodeUnitPartly unit

/-! ## Derived values -/

/-- The quantiser at which slices start. -/
def initialQp (set : PictureParameterSet) : Int :=
  saturateSigned (set.initialQpMinus26 + 26)

/-- Blocks can choose quantiser offsets for chroma. -/
def hasChromaOffsetLists (set : PictureParameterSet) : Bool :=
  (set.rangeExtension.bind (·.chromaOffsetLists)).isSome

/-- Slices can have a filtering of block edges of their own. -/
def deblockingOverrideEnabled (set : PictureParameterSet) : Bool :=
  (set.deblocking.map (·.overrideEnabled)).getD false

/-- Block edges are not filtered unless a slice says otherwise. -/
def deblockingDisabled (set : PictureParameterSet) : Bool :=
  (set.deblocking.map (·.disabled)).getD false

/-- The binary logarithm of the size of the regions within which motion is merged in parallel. -/
def log2MergeLevel (set : PictureParameterSet) : Nat :=
  set.log2MergeLevelMinus2 + 2

end PictureParameterSet

end CodedVideo.Hevc
