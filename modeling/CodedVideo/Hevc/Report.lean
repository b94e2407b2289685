import CodedVideo.Hevc.Listing

/-!
# Reports on HEVC structures
-/

namespace CodedVideo.Hevc

/-! ## Units -/

/-- A type of units with the classes that it is in. -/
def NalUnitType.report (unitType : NalUnitType) : Element :=
  .record [
    ("type", listed unitType),
    ("raw", listed unitType.code),
    ("display", listed unitType.name),
    ("is_vcl", listed unitType.isVcl),
    ("is_irap", listed unitType.isIrap),
    ("is_idr", listed unitType.isIdr),
    ("is_bla", listed unitType.isBla),
    ("is_cra", listed unitType.isCra),
    ("is_leading", listed unitType.isLeading),
    ("is_trailing", listed unitType.isTrailing),
    ("is_reference", listed unitType.isReference),
    ("is_parameter_set", listed unitType.isParameterSet),
    ("has_slice_header", listed unitType.hasSliceHeader)]

/-- The header of a unit with the temporal level counted from zero. -/
def NalHeader.report (header : NalHeader) : Element :=
  .record [("value", listed header), ("temporal_id", listed header.temporalId)]

/-! ## Profiles, tiers and levels -/

/-- A profile with its name and what it allows. -/
def Profile.report (profile : Profile) : Element :=
  .record [
    ("profile", listed profile),
    ("idc", listed profile.idc),
    ("display", listed profile.name),
    ("supports_10bit", listed profile.allowsTenBits)]

/-- A level with its number and its bound. -/
def Level.report (level : Level) : Element :=
  .record [
    ("level", listed level),
    ("display", listed level.name),
    ("major", listed level.major),
    ("minor", listed level.minor),
    ("max_luma_picture_size", listed level.maxPictureSize?)]

namespace ProfileTierLevel

/-- The values derived from a profile, tier and level; the codec string is for a given sample
entry. -/
def derived (level : ProfileTierLevel) (sampleEntry : String) : List (String × Element) :=
  [("profile", listed level.profile?),
    ("profile_name", listed (level.profile?.map (·.name))),
    ("tier", listed level.tier),
    ("tier_name", listed level.tier.name),
    ("level", listed level.level.name),
    ("compatible", listed ((List.range 33).filter level.block.isCompatibleWith)),
    ("progressive_source_flag", listed level.block.progressiveSource),
    ("interlaced_source_flag", listed level.block.interlacedSource),
    ("non_packed_constraint_flag", listed level.block.nonPacked),
    ("frame_only_constraint_flag", listed level.block.framesOnly),
    ("codec_string", listed (level.codecString sampleEntry))]

/-- A profile, tier and level with the values derived from it. -/
def report (level : ProfileTierLevel) (sampleEntry : String) : Element :=
  .report (listed level) (level.derived sampleEntry)

end ProfileTierLevel

/-! ## Parts of parameter sets -/

/-- Scaling lists with the places that have one. -/
def ScalingLists.report (lists : ScalingLists) : Element :=
  let places := (List.range 4).flatMap fun size => (List.range 6).map fun kind => (size, kind)
  .record [
    ("value", listed lists),
    ("found", listed (places.filter fun place => (lists.get? place.1 place.2).isSome))]

/-- A short-term set with the numbers of its pictures. -/
def ShortTermSet.report (set : ShortTermSet) : Element :=
  .report (listed set) [
    ("num_negative_pics", listed set.before.length),
    ("num_positive_pics", listed set.after.length),
    ("num_delta_pocs", listed set.size),
    ("num_used_by_curr_pic", listed set.usedCount)]

/-! ## Parameter sets -/

/-- A video parameter set with the values derived from it. -/
def VideoParameterSet.report (set : VideoParameterSet) : Element :=
  .report (listed set) [
    ("frame_rate", listed set.frameRate?),
    ("ptl", .record (set.profileTierLevel.derived "hev1"))]

/-- A sequence parameter set with the values derived from it. -/
def SequenceParameterSet.report (set : SequenceParameterSet) : Element :=
  .report (listed set) [
    ("profile", listed set.profileTierLevel.profile?),
    ("tier", listed set.profileTierLevel.tier),
    ("level", listed set.profileTierLevel.level),
    ("chroma_array_type", listed set.codedChroma),
    ("sub_width_c", listed set.chromaWidthRatio),
    ("sub_height_c", listed set.chromaHeightRatio),
    ("width", listed set.width),
    ("height", listed set.height),
    ("bit_depth_luma", listed set.lumaDepth),
    ("bit_depth_chroma", listed set.chromaDepth),
    ("log2_max_pic_order_cnt_lsb", listed set.log2MaxPictureOrder),
    ("log2_min_cb_size", listed set.log2MinCodingSize),
    ("log2_ctb_size", listed set.log2TreeSize),
    ("ctb_size", listed set.treeSize),
    ("pic_width_in_ctbs", listed set.widthInTreeBlocks),
    ("pic_height_in_ctbs", listed set.heightInTreeBlocks),
    ("pic_size_in_ctbs", listed set.sizeInTreeBlocks),
    ("min_tb_size", listed set.minTransformSize),
    ("max_tb_size", listed set.maxTransformSize),
    ("max_dec_pic_buffering", listed set.maxStoredPictures),
    ("sar", listed set.aspectRatio?),
    ("frame_rate", listed set.frameRate?),
    ("extensions_any", listed set.extensions.any),
    ("codec_string", listed set.codecString)]

/-- A picture parameter set with the values derived from it. -/
def PictureParameterSet.report (set : PictureParameterSet) : Element :=
  .report (listed set) [
    ("init_qp", listed set.initialQp),
    ("chroma_qp_offset_list_enabled_flag", listed set.hasChromaOffsetLists),
    ("tiles_enabled_flag", listed set.tiles.isSome),
    ("num_tiles", listed (set.tiles.map (·.size))),
    ("deblocking_filter_override_enabled_flag", listed set.deblockingOverrideEnabled),
    ("pps_deblocking_filter_disabled_flag", listed set.deblockingDisabled),
    ("log2_parallel_merge_level", listed set.log2MergeLevel),
    ("extensions_any", listed set.extensions.any),
    ("extensions_undecoded", listed set.extensions.beyondRange)]

/-! ## Slices -/

/-- A slice type with how it is predicted. -/
def SliceType.report (sliceType : SliceType) : Element :=
  .record [
    ("slice_type", listed sliceType),
    ("discriminant", listed sliceType.code),
    ("is_intra", listed sliceType.isIntra),
    ("is_bidirectional", listed sliceType.isBidirectional)]

/-- A slice segment with the values derived from its header and from the parameter sets that the
header refers to. -/
def SliceSegment.report (segment : SliceSegment) (sequences : IdTable SequenceParameterSet)
    (pictures : IdTable PictureParameterSet) : Element :=
  let header := segment.header
  let pictureSet := pictures.get? header.start.pictureSetId
  let sequenceSet := pictureSet.bind fun set => sequences.get? set.sequenceId
  .report (listed segment) [
    ("is_intra", listed header.isIntra),
    ("rps", listed (sequenceSet.bind header.shortTermSet?)),
    ("entry_point_offsets", listed header.entryPointOffsets),
    ("max_num_merge_cand", listed header.maxMergeCandidates),
    ("qp", listed (pictureSet.map header.qp))]

end CodedVideo.Hevc
