import CodedVideo.Coding
import CodedVideo.Vvc.SequenceParameterSet

/-!
# Coding of VVC parameter sets

The leading fields of VVC sequence parameter sets in coding order.
-/

namespace CodedVideo.Vvc

open CodedField

/-- The fields of the constraints. -/
def GeneralConstraints.coding (constraints : GeneralConstraints) : List CodedField :=
  [.flag constraints.intraOnly, .flag constraints.layersIndependent,
    .flag constraints.oneAccessUnit, .bits constraints.sixteenMinusMaxDepth 4,
    .bits constraints.threeMinusMaxChroma 2, .wideBits constraints.flags 62,
    .bits constraints.additional.length 8] ++
    constraints.additional.map .flag

/-- The field of the level of a sub-layer, unless it is that of the next higher one. -/
def SubLayerLevel.coding (subLayer : SubLayerLevel) : List CodedField :=
  onlyIf subLayer.isCoded [.bits subLayer.levelIdc 8]

/-- The fields of a profile, tier and level. The levels of sub-layers are coded from the highest to
the lowest. -/
def ProfileTierLevel.coding (level : ProfileTierLevel) : List CodedField :=
  present (fun profileTier : ProfileTier =>
      [.bits profileTier.profileIdc 7, .flag profileTier.tierFlag]) level.profileTier ++
    [.bits level.levelIdc 8, .flag level.framesOnly, .flag level.multilayerEnabled] ++
    present (fun profileTier : ProfileTier =>
      flagged GeneralConstraints.coding profileTier.constraints ++ [.alignment])
      level.profileTier ++
    level.subLayers.reverse.map (fun subLayer => .flag subLayer.isCoded) ++
    [.alignment] ++
    level.subLayers.reverse.flatMap SubLayerLevel.coding ++
    present (fun profileTier : ProfileTier =>
      .bits profileTier.subProfiles.length 8 ::
        profileTier.subProfiles.map fun subProfile => .bits subProfile 32) level.profileTier

namespace SequenceParameterSet

/-- The fields of a set, up to the place where decoding stops. -/
def coding (set : SequenceParameterSet) : List CodedField :=
  [.bits set.id 4, .bits set.videoSetId 4, .bits set.maxSubLayersMinus1 3, .bits set.chroma 2,
    .bits set.log2TreeSizeMinus5 2] ++
    flagged ProfileTierLevel.coding set.profileTierLevel ++
    [.flag set.gradualRefresh, .flag set.resampling] ++
    onlyIf set.resampling [.flag set.resolutionChanges] ++
    [.unsigned set.maxWidth, .unsigned set.maxHeight] ++
    flagged Window.coding set.conformanceWindow ++
    [.flag set.hasSubpictures] ++
    present (fun depthMinus8 => [.unsigned depthMinus8]) set.depthMinus8

/-- The unit of a set, with the given bits behind the fields; its last byte is filled with zeros. -/
def toUnit (set : SequenceParameterSet) (layerId temporalIdPlus1 : Nat) (rest : List Bool) :
    Except BitFault (List UInt8) :=
  CodedField.toUnit
    (({ layerId, unitType := .sps, temporalIdPlus1 } : NalHeader).coding ++ set.coding ++
      rest.map .flag)

end SequenceParameterSet

end CodedVideo.Vvc
