import CodedVideo.Hevc.NalUnit
import CodedVideo.Hevc.ProfileTierLevel
import CodedVideo.Hevc.SubLayerOrdering
import CodedVideo.Hevc.VideoUsability

/-!
# HEVC video parameter sets

A video parameter set (VPS) describes all layers of a stream: profile, tier and level, the sets of
layers that can be decoded together, and their clock and buffer models.
-/

namespace CodedVideo.Hevc

/-! ## Parts -/

/-- The buffer model of a layer set. -/
structure LayerSetBufferModel where
  layerSet : Nat
  /-- What all sub-layers share is coded. -/
  sharedPresent : Bool
  model : BufferModel
deriving DecidableEq, Repr

/-- A video parameter set. -/
structure VideoParameterSet where
  id : Nat
  baseLayerInternal : Bool
  baseLayerAvailable : Bool
  maxLayersMinus1 : Nat
  maxSubLayersMinus1 : Nat
  temporalIdNesting : Bool
  profileTierLevel : ProfileTierLevel
  orderingOfEach : Bool
  /-- One entry for each sub-layer. -/
  ordering : List SubLayerOrdering
  maxLayerId : Nat
  /-- The layers of each layer set but the first, as a number whose bit `n` stands for layer `n`. -/
  layerSets : List Nat
  timing : Option Timing
  bufferModels : List LayerSetBufferModel
  /-- Extension data follows, which is not decoded. -/
  extended : Bool
deriving DecidableEq, Repr

namespace VideoParameterSet

/-- The name under which errors report the structure. -/
def structureName : String := "VPS"

/-- The greatest number of layer sets, less one. -/
def maxLayerSetsMinus1 : Nat := 1023

/-! ## Grammar -/

open Decoder

/-- The layers of a layer set, one flag for each. -/
def layerSetDecoder (maxLayerId : Nat) : Decoder Nat := do
  let flags ← replicate (maxLayerId + 1) flag
  return Bits.toNat flags.reverse

/-- The buffer model with a given index; the first one always has what all sub-layers share. -/
def bufferModelDecoder (maxSubLayersMinus1 index : Nat) : Decoder LayerSetBufferModel := do
  let layerSet ← unsigned
  let sharedPresent ← whenElse (index != 0) true flag
  let model ← BufferModel.decoder sharedPresent maxSubLayersMinus1
  return { layerSet, sharedPresent, model }

/-- The buffer models, of which there are no more than layer sets. -/
def bufferModelsDecoder (maxSubLayersMinus1 layerSetCount : Nat) :
    Decoder (List LayerSetBufferModel) := do
  let count ← unsigned
  require (count ≤ layerSetCount)
    (.malformed structureName s!"vps_num_hrd_parameters {count} exceeds layer sets")
  times count (bufferModelDecoder maxSubLayersMinus1)

/-- The fields behind the header. -/
def fields : Decoder VideoParameterSet := do
  let id ← bits 4
  let baseLayerInternal ← flag
  let baseLayerAvailable ← flag
  let maxLayersMinus1 ← bits 6
  let maxSubLayersMinus1 ← bits 3
  let temporalIdNesting ← flag
  let reserved ← bits 16
  require (reserved == 0xffff) (.malformed structureName "vps_reserved_0xffff_16bits mismatch")
  let profileTierLevel ← ProfileTierLevel.decoder true maxSubLayersMinus1
  let orderingOfEach ← flag
  let ordering ← SubLayerOrdering.listDecoder orderingOfEach maxSubLayersMinus1
  let maxLayerId ← bits 6
  let layerSetsMinus1 ← boundedUnsigned structureName "vps_num_layer_sets_minus1" maxLayerSetsMinus1
  let layerSets ← replicate layerSetsMinus1 (layerSetDecoder maxLayerId)
  let timing ← optional (← flag) Timing.decoder
  let bufferModels ← whenElse timing.isSome []
    (bufferModelsDecoder maxSubLayersMinus1 (layerSetsMinus1 + 1))
  let extended ← flag
  return {
    id, baseLayerInternal, baseLayerAvailable, maxLayersMinus1, maxSubLayersMinus1,
    temporalIdNesting, profileTierLevel, orderingOfEach, ordering, maxLayerId, layerSets, timing,
    bufferModels, extended }

/-- The grammar of a unit. Trailing bits are checked only where no extension data is in front of
them. -/
def decoder : Decoder VideoParameterSet := do
  let header ← NalHeader.decoder
  require (header.unitType == .vps) (.wrongUnitType structureName header.unitType.code)
  let set ← located structureName fields
  whenElse (!set.extended) () (located structureName trailingBits)
  return set

/-- Decodes a video parameter set from its unit. -/
def ofUnit (unit : List UInt8) : Except Error VideoParameterSet :=
  decoder.decodeUnit unit

/-- A number of pictures and the number of seconds they take, if they are coded. -/
def frameRate? (set : VideoParameterSet) : Option (Nat × Nat) :=
  set.timing.bind Timing.frameRate?

end VideoParameterSet

end CodedVideo.Hevc
