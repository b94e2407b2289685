import CodedVideo.Avc.Listing

/-!
# Reports on AVC structures
-/

namespace CodedVideo.Avc

/-! ## Units, profiles and levels -/

/-- A profile with what it allows. -/
def Profile.report (profile : Profile) : Element :=
  .record [
    ("profile", listed profile),
    ("idc", listed profile.idc),
    ("allows_b_frames", listed profile.allowsBidirectional),
    ("allows_cabac", listed profile.allowsArithmeticCoding)]

/-- A level with its bounds. -/
def Level.report (level : Level) : Element :=
  .record [
    ("level", listed level),
    ("display", listed level.name),
    ("max_mbps", listed level.maxMacroblocksPerSecond),
    ("max_fs", listed level.maxFrameSize),
    ("max_dpb_mbs", listed level.maxStoredMacroblocks)]

/-- A type of units with the classes that it is in. -/
def NalUnitType.report (unitType : NalUnitType) : Element :=
  .record [
    ("type", listed unitType),
    ("raw", listed unitType.code),
    ("display", listed unitType.name),
    ("is_vcl", listed unitType.isVcl),
    ("has_slice_header", listed unitType.hasSliceHeader),
    ("is_idr", listed unitType.isIdr),
    ("is_parameter_set", listed unitType.isParameterSet)]

/-- A slice type with how it is predicted. -/
def SliceType.report (sliceType : SliceType) : Element :=
  .record [
    ("slice_type", listed sliceType),
    ("discriminant", listed sliceType.code),
    ("is_intra", listed sliceType.isIntra),
    ("is_bidirectional", listed sliceType.isBidirectional),
    ("uses_list0", listed sliceType.usesList0)]

/-! ## Parameter sets -/

/-- A sequence parameter set with the values derived from it. -/
def SequenceParameterSet.report (set : SequenceParameterSet) : Element :=
  .report (listed set) [
    ("profile", listed set.profile?),
    ("level", listed set.level.name),
    ("constraint_set_flag", listed ((List.range 10).map set.constraintFlag)),
    ("chroma_array_type", listed set.codedChroma),
    ("sub_width_c", listed set.chromaWidthRatio),
    ("sub_height_c", listed set.chromaHeightRatio),
    ("crop_unit_x", listed set.cropUnitWidth),
    ("crop_unit_y", listed set.cropUnitHeight),
    ("pic_width_in_mbs", listed set.widthInMacroblocks),
    ("frame_height_in_mbs", listed set.frameHeightInMacroblocks),
    ("pic_size_in_map_units", listed set.pictureSizeInMapUnits),
    ("width", listed set.width),
    ("height", listed set.height),
    ("bit_depth_luma", listed set.lumaDepth),
    ("bit_depth_chroma", listed set.chromaDepth),
    ("log2_max_frame_num", listed set.log2MaxFrameNum),
    ("log2_max_pic_order_cnt_lsb", listed set.log2MaxPictureOrder),
    ("max_frame_num", listed set.maxFrameNum?),
    ("sar", listed set.aspectRatio?),
    ("frame_rate", listed set.frameRate?),
    ("max_dpb_frames", listed set.maxStoredFrames),
    ("codec_string", listed set.codecString)]

/-- A picture parameter set with the values derived from it. -/
def PictureParameterSet.report (set : PictureParameterSet) : Element :=
  .report (listed set) [
    ("uses_cabac", listed set.arithmeticCoding),
    ("pic_init_qp", listed set.initialQp),
    ("map_type", listed (set.sliceGroups.map (·.map.code))),
    ("change_rate", listed set.changeRate?)]

/-! ## Slice headers -/

/-- A slice header with the values derived from it and from the picture parameter set it names. -/
def SliceHeader.report (header : SliceHeader) (pictures : IdTable PictureParameterSet) : Element :=
  .report (listed header) [
    ("qp", listed ((pictures.get? header.pictureSetId).map header.qp)),
    ("all_slices_same_type", listed header.sameTypeInPicture),
    ("is_reference", listed header.isReference)]

end CodedVideo.Avc
