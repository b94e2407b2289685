import CodedVideo.Vvc.Listing

/-!
# Reports on VVC structures
-/

namespace CodedVideo.Vvc

/-! ## Units -/

/-- A type of units with the classes that it is in. -/
def NalUnitType.report (unitType : NalUnitType) : Element :=
  .record [
    ("type", listed unitType),
    ("raw", listed unitType.code),
    ("display", listed unitType.name),
    ("is_vcl", listed unitType.isVcl),
    ("is_irap", listed unitType.isIrap),
    ("is_idr", listed unitType.isIdr),
    ("is_leading", listed unitType.isLeading),
    ("is_parameter_set", listed unitType.isParameterSet)]

/-- The header of a unit with the temporal level counted from zero. -/
def NalHeader.report (header : NalHeader) : Element :=
  .record [("value", listed header), ("temporal_id", listed header.temporalId)]

/-! ## Profiles, tiers and levels -/

/-- A profile with the kinds of streams that it is for. -/
def Profile.report (profile : Profile) : Element :=
  .record [
    ("profile", listed profile),
    ("idc", listed profile.idc),
    ("is_444", listed profile.allows444),
    ("is_still_picture", listed profile.isStillPicture),
    ("is_multilayer", listed profile.isMultilayer)]

/-- A level with its number and its bound. -/
def Level.report (level : Level) : Element :=
  .record [
    ("level", listed level),
    ("display", listed level.name),
    ("major", listed level.major),
    ("minor", listed level.minor),
    ("max_luma_picture_size", listed level.maxPictureSize?)]

namespace ProfileTierLevel

/-- The values derived from a profile, tier and level. -/
def derived (level : ProfileTierLevel) : List (String × Element) :=
  [("profile", listed level.profile?),
    ("tier", listed level.tier),
    ("tier_name", listed level.tier.name),
    ("level", listed level.level.name),
    ("max_bit_depth", listed (level.constraints?.map (·.maxDepth))),
    ("max_chroma_format_idc", listed (level.constraints?.map (·.maxChroma)))]

/-- A profile, tier and level with the values derived from it. -/
def report (level : ProfileTierLevel) : Element :=
  .report (listed level) level.derived

end ProfileTierLevel

/-! ## Sequence parameter sets -/

/-- A sequence parameter set with the values derived from it. -/
def SequenceParameterSet.report (set : SequenceParameterSet) : Element :=
  .report (listed set) [
    ("profile", listed set.profile?),
    ("tier", listed set.tier?),
    ("level", listed (set.level?.map (·.name))),
    ("max_sublayers", listed set.maxSubLayers),
    ("log2_ctu_size", listed set.log2TreeSize),
    ("ctu_size", listed set.treeSize),
    ("pic_width_max_in_ctus", listed set.maxWidthInTreeBlocks),
    ("pic_height_max_in_ctus", listed set.maxHeightInTreeBlocks),
    ("sub_width_c", listed set.chromaWidthRatio),
    ("sub_height_c", listed set.chromaHeightRatio),
    ("width", listed set.width),
    ("height", listed set.height),
    ("bit_depth", listed set.depth?),
    ("ptl", listed (set.profileTierLevel.map fun level => Element.record level.derived))]

end CodedVideo.Vvc
