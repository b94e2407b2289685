import CodedVideo.Avc.SliceHeader
import CodedVideo.Listing

/-!
# Listings of AVC structures
-/

namespace CodedVideo.Avc

/-! ## Units, profiles and levels -/

instance : Listed NalUnitType where
  listed
    | .unknown code => .choice "Unknown" (listed code)
    | unitType => .text unitType.name

instance : Listed NalHeader where
  listed header := .record [
    ("nal_ref_idc", listed header.refIdc),
    ("nal_unit_type", listed header.unitType),
    ("byte", listed header.toByte.toNat)]

instance : Listed Profile where
  listed
    | .baseline => .text "Baseline"
    | .main => .text "Main"
    | .extended => .text "Extended"
    | .high => .text "High"
    | .high10 => .text "High10"
    | .high422 => .text "High422"
    | .high444 => .text "High444"
    | .cavlc444 => .text "Cavlc444"
    | .scalableBaseline => .text "ScalableBaseline"
    | .scalableHigh => .text "ScalableHigh"
    | .multiviewHigh => .text "MultiviewHigh"
    | .stereoHigh => .text "StereoHigh"

instance : Listed Level where
  listed level := .record [("value", listed level.idc)]

/-! ## Sequence parameter sets -/

instance : Listed ScalingList where
  listed
    | .notPresent => .text "NotPresent"
    | .useDefault => .text "UseDefault"
    | .explicit weights => .choice "Explicit" (listed weights)

instance : Listed BufferSchedule where
  listed schedule := .record [
    ("bit_rate_value_minus1", listed schedule.bitRateMinus1),
    ("cpb_size_value_minus1", listed schedule.bufferSizeMinus1),
    ("cbr_flag", listed schedule.constantBitRate)]

instance : Listed BufferModel where
  listed model := .record [
    ("cpb_cnt_minus1", listed model.scheduleCountMinus1),
    ("bit_rate_scale", listed model.bitRateScale),
    ("cpb_size_scale", listed model.bufferSizeScale),
    ("cpb", listed model.schedules),
    ("initial_cpb_removal_delay_length_minus1", listed model.initialRemovalDelayLengthMinus1),
    ("cpb_removal_delay_length_minus1", listed model.removalDelayLengthMinus1),
    ("dpb_output_delay_length_minus1", listed model.outputDelayLengthMinus1),
    ("time_offset_length", listed model.timeOffsetLength)]

instance : Listed BitstreamRestriction where
  listed restriction := .record [
    ("motion_vectors_over_pic_boundaries_flag", listed restriction.motionVectorsOverBoundaries),
    ("max_bytes_per_pic_denom", listed restriction.maxBytesPerPictureDenominator),
    ("max_bits_per_mb_denom", listed restriction.maxBitsPerMacroblockDenominator),
    ("log2_max_mv_length_horizontal", listed restriction.log2MaxHorizontalVectorLength),
    ("log2_max_mv_length_vertical", listed restriction.log2MaxVerticalVectorLength),
    ("max_num_reorder_frames", listed restriction.maxReorderFrames),
    ("max_dec_frame_buffering", listed restriction.maxFrameBuffering)]

instance : Listed VideoUsability where
  listed usability := .record (usability.signal.elements "matrix_coefficients" ++ [
    ("timing_info_present_flag", listed usability.timing.isSome),
    ("num_units_in_tick", listed ((usability.timing.map (·.unitsInTick)).getD 0)),
    ("time_scale", listed ((usability.timing.map (·.timeScale)).getD 0)),
    ("fixed_frame_rate_flag", listed ((usability.timing.map (·.fixedFrameRate)).getD false)),
    ("nal_hrd", listed usability.nalBufferModel),
    ("vcl_hrd", listed usability.vclBufferModel),
    ("low_delay_hrd_flag", listed usability.lowDelay),
    ("pic_struct_present_flag", listed usability.pictureStructurePresent),
    ("bitstream_restriction", listed usability.restriction)])

namespace PictureOrder

/-- The syntax elements of the picture order. -/
def elements (order : PictureOrder) : List (String × Element) :=
  let (kind, log2MaxMinus4, alwaysZero, nonReference, topToBottom, references) :=
    match order with
    | lowBits log2MaxMinus4 => (0, log2MaxMinus4, false, 0, 0, [])
    | cycle alwaysZero nonReference topToBottom references =>
        (1, 0, alwaysZero, nonReference, topToBottom, references)
    | decodingOrder kind => (kind, 0, false, 0, 0, [])
  [("pic_order_cnt_type", listed kind),
    ("log2_max_pic_order_cnt_lsb_minus4", listed log2MaxMinus4),
    ("delta_pic_order_always_zero_flag", listed alwaysZero),
    ("offset_for_non_ref_pic", listed nonReference),
    ("offset_for_top_to_bottom_field", listed topToBottom),
    ("offset_for_ref_frame", listed references)]

end PictureOrder

instance : Listed SequenceParameterSet where
  listed set :=
    let margins := set.cropping.getD { left := 0, right := 0, top := 0, bottom := 0 : Window }
    .record ([
      ("profile_idc", listed set.profileIdc),
      ("constraint_set_flags", listed set.constraintFlags),
      ("level_idc", listed set.levelIdc),
      ("sps_id", listed set.id),
      ("chroma_format_idc", listed set.format.chroma),
      ("separate_colour_plane_flag", listed set.format.separatePlanes),
      ("bit_depth_luma_minus8", listed set.format.lumaDepthMinus8),
      ("bit_depth_chroma_minus8", listed set.format.chromaDepthMinus8),
      ("qpprime_y_zero_transform_bypass_flag", listed set.format.losslessBypass),
      ("seq_scaling_matrix_present_flag", listed set.format.scalingLists.isSome),
      ("seq_scaling_lists", listed (set.format.scalingLists.getD [])),
      ("log2_max_frame_num_minus4", listed set.log2MaxFrameNumMinus4)] ++
      set.pictureOrder.elements ++ [
      ("max_num_ref_frames", listed set.maxReferenceFrames),
      ("gaps_in_frame_num_value_allowed_flag", listed set.frameNumGapsAllowed),
      ("pic_width_in_mbs_minus1", listed set.widthInMacroblocksMinus1),
      ("pic_height_in_map_units_minus1", listed set.heightInMapUnitsMinus1),
      ("frame_mbs_only_flag", listed set.framesOnly),
      ("mb_adaptive_frame_field_flag", listed set.adaptiveFrameField),
      ("direct_8x8_inference_flag", listed set.direct8x8Inference),
      ("frame_cropping_flag", listed set.cropping.isSome),
      ("frame_crop_left_offset", listed margins.left),
      ("frame_crop_right_offset", listed margins.right),
      ("frame_crop_top_offset", listed margins.top),
      ("frame_crop_bottom_offset", listed margins.bottom),
      ("vui_parameters_present_flag", listed set.usability.isSome),
      ("vui", listed set.usability),
      ("nr_bytes_before_vui", listed set.bytesBeforeUsability),
      ("nr_bytes_read", listed set.bytesRead)])

/-! ## Picture parameter sets -/

instance : Listed SliceGroupMap where
  listed
    | .interleaved runLengths =>
        .choice "Interleaved" (.record [("run_length_minus1", listed runLengths)])
    | .dispersed => .text "Dispersed"
    | .foreground rectangles =>
        .choice "Foreground" (.record [
          ("top_left", listed (rectangles.map (·.topLeft))),
          ("bottom_right", listed (rectangles.map (·.bottomRight)))])
    | .changing growth reversed rateMinus1 =>
        .choice "Changing" (.record [
          ("map_type", listed growth.code),
          ("change_direction_flag", listed reversed),
          ("change_rate_minus1", listed rateMinus1)])
    | .explicit groups => .choice "Explicit" (.record [("slice_group_id", listed groups)])

instance : Listed PictureParameterSet where
  listed set := .record [
    ("pps_id", listed set.id),
    ("sps_id", listed set.sequenceId),
    ("entropy_coding_mode_flag", listed set.arithmeticCoding),
    ("bottom_field_pic_order_in_frame_present_flag", listed set.bottomFieldOrderPresent),
    ("num_slice_groups_minus1", listed ((set.sliceGroups.map (·.countMinus1)).getD 0)),
    ("slice_group_map", listed (set.sliceGroups.map (·.map))),
    ("num_ref_idx_l0_default_active_minus1", listed set.defaultActiveList0Minus1),
    ("num_ref_idx_l1_default_active_minus1", listed set.defaultActiveList1Minus1),
    ("weighted_pred_flag", listed set.weightedPrediction),
    ("weighted_bipred_idc", listed set.weightedBipredictionIdc),
    ("pic_init_qp_minus26", listed set.initialQpMinus26),
    ("pic_init_qs_minus26", listed set.initialQsMinus26),
    ("chroma_qp_index_offset", listed set.chromaQpOffset),
    ("deblocking_filter_control_present_flag", listed set.deblockingControlPresent),
    ("constrained_intra_pred_flag", listed set.constrainedIntraPrediction),
    ("redundant_pic_cnt_present_flag", listed set.redundantPictureCountPresent),
    ("transform_8x8_mode_flag", listed set.transform.transform8x8),
    ("pic_scaling_matrix_present_flag", listed set.transform.scalingLists.isSome),
    ("pic_scaling_lists", listed (set.transform.scalingLists.getD [])),
    ("second_chroma_qp_index_offset", listed set.transform.secondChromaQpOffset)]

/-! ## Slice headers -/

instance : Listed SliceType where
  listed
    | .p => .text "P"
    | .b => .text "B"
    | .i => .text "I"
    | .sp => .text "Sp"
    | .si => .text "Si"

instance : Listed ListModification where
  listed
    | .subtract differenceMinus1 =>
        .choice "Subtract" (.record [("abs_diff_pic_num_minus1", listed differenceMinus1)])
    | .add differenceMinus1 =>
        .choice "Add" (.record [("abs_diff_pic_num_minus1", listed differenceMinus1)])
    | .longTerm pictureNumber =>
        .choice "LongTerm" (.record [("long_term_pic_num", listed pictureNumber)])

instance : Listed WeightTable where
  listed table := .record [
    ("luma_log2_weight_denom", listed table.lumaLog2Denominator),
    ("chroma_log2_weight_denom", listed table.chromaLog2Denominator),
    ("l0", listed table.list0),
    ("l1", listed table.list1)]

instance : Listed MemoryOperation where
  listed
    | .dropShortTerm differenceMinus1 =>
        .choice "ShortTermUnused"
          (.record [("difference_of_pic_nums_minus1", listed differenceMinus1)])
    | .dropLongTerm pictureNumber =>
        .choice "LongTermUnused" (.record [("long_term_pic_num", listed pictureNumber)])
    | .makeLongTerm differenceMinus1 frameIndex =>
        .choice "ShortTermToLongTerm" (.record [
          ("difference_of_pic_nums_minus1", listed differenceMinus1),
          ("long_term_frame_idx", listed frameIndex)])
    | .limitLongTerm maxFrameIndexPlus1 =>
        .choice "MaxLongTermFrameIdx"
          (.record [("max_long_term_frame_idx_plus1", listed maxFrameIndexPlus1)])
    | .dropAll => .text "ClearAll"
    | .makeCurrentLongTerm frameIndex =>
        .choice "CurrentToLongTerm" (.record [("long_term_frame_idx", listed frameIndex)])

instance : Listed ReferenceMarking where
  listed
    | .refresh noOutputOfPriorPictures longTermReference =>
        .choice "Idr" (.record [
          ("no_output_of_prior_pics_flag", listed noOutputOfPriorPictures),
          ("long_term_reference_flag", listed longTermReference)])
    | .slidingWindow => .text "SlidingWindow"
    | .adaptive operations => .choice "Adaptive" (listed operations)

instance : Listed SliceHeader where
  listed header := .record [
    ("nal_unit_type", listed header.unit.unitType),
    ("nal_ref_idc", listed header.unit.refIdc),
    ("first_mb_in_slice", listed header.firstMacroblock),
    ("slice_type_value", listed header.typeCode),
    ("slice_type", listed header.sliceType),
    ("pps_id", listed header.pictureSetId),
    ("colour_plane_id", listed header.colourPlane),
    ("frame_num", listed header.frameNum),
    ("field_pic_flag", listed (header.pictureStructure != .frame)),
    ("bottom_field_flag", listed (header.pictureStructure == .bottomField)),
    ("idr_pic_id", listed header.idrPictureId),
    ("pic_order_cnt_lsb", listed header.pictureOrder.lowBits),
    ("delta_pic_order_cnt_bottom", listed header.pictureOrder.bottomDelta),
    ("delta_pic_order_cnt_0", listed header.pictureOrder.firstDelta),
    ("delta_pic_order_cnt_1", listed header.pictureOrder.secondDelta),
    ("redundant_pic_cnt", listed header.redundantPictureCount),
    ("direct_spatial_mv_pred_flag", listed header.directSpatial),
    ("num_ref_idx_active_override_flag", listed header.activeReferences.overridden),
    ("num_ref_idx_l0_active_minus1", listed header.activeReferences.list0Minus1),
    ("num_ref_idx_l1_active_minus1", listed header.activeReferences.list1Minus1),
    ("ref_pic_list_modification_l0", listed header.list0Modification),
    ("ref_pic_list_modification_l1", listed header.list1Modification),
    ("pred_weight_table", listed header.weights),
    ("dec_ref_pic_marking", listed header.marking),
    ("cabac_init_idc", listed header.arithmeticInitIdc),
    ("slice_qp_delta", listed header.qpDelta),
    ("sp_for_switch_flag", listed header.switchForSp),
    ("slice_qs_delta", listed header.qsDelta),
    ("disable_deblocking_filter_idc", listed header.deblocking.disableIdc),
    ("slice_alpha_c0_offset_div2", listed header.deblocking.alphaOffsetDiv2),
    ("slice_beta_offset_div2", listed header.deblocking.betaOffsetDiv2),
    ("slice_group_change_cycle", listed header.sliceGroupChangeCycle),
    ("size_bits", listed header.sizeInBits)]

end CodedVideo.Avc
