import CodedVideo.Hevc.SliceHeader
import CodedVideo.Hevc.VideoParameterSet
import CodedVideo.Listing

/-!
# Listings of HEVC structures
-/

namespace CodedVideo.Hevc

/-! ## Units -/

instance : Listed NalUnitType where
  listed
    | .trailN => .text "TrailN"
    | .trailR => .text "TrailR"
    | .tsaN => .text "TsaN"
    | .tsaR => .text "TsaR"
    | .stsaN => .text "StsaN"
    | .stsaR => .text "StsaR"
    | .radlN => .text "RadlN"
    | .radlR => .text "RadlR"
    | .raslN => .text "RaslN"
    | .raslR => .text "RaslR"
    | .blaWithLeading => .text "BlaWLp"
    | .blaWithRadl => .text "BlaWRadl"
    | .blaWithoutLeading => .text "BlaNLp"
    | .idrWithRadl => .text "IdrWRadl"
    | .idrWithoutLeading => .text "IdrNLp"
    | .cra => .text "CraNut"
    | .vps => .text "VpsNut"
    | .sps => .text "SpsNut"
    | .pps => .text "PpsNut"
    | .accessUnitDelimiter => .text "AudNut"
    | .endOfSequence => .text "EosNut"
    | .endOfBitstream => .text "EobNut"
    | .filler => .text "FdNut"
    | .prefixSei => .text "PrefixSeiNut"
    | .suffixSei => .text "SuffixSeiNut"
    | .reserved code => .choice "Reserved" (listed code)
    | .unspecified code => .choice "Unspecified" (listed code)

instance : Listed NalHeader where
  listed header := .record [
    ("nal_unit_type", listed header.unitType),
    ("nuh_layer_id", listed header.layerId),
    ("nuh_temporal_id_plus1", listed header.temporalIdPlus1)]

/-! ## Profiles, tiers and levels -/

instance : Listed Profile where
  listed
    | .main => .text "Main"
    | .main10 => .text "Main10"
    | .mainStillPicture => .text "MainStillPicture"
    | .rangeExtensions => .text "RangeExtensions"
    | .highThroughput => .text "HighThroughput"
    | .multiviewMain => .text "MultiviewMain"
    | .scalableMain => .text "ScalableMain"
    | .threeDMain => .text "ThreeDMain"
    | .screenContentCoding => .text "ScreenContentCoding"
    | .scalableRangeExtensions => .text "ScalableRangeExtensions"
    | .highThroughputScreenContent => .text "HighThroughputScreenContent"

instance : Listed Tier where
  listed tier := .text tier.name

instance : Listed Level where
  listed level := .record [("level_idc", listed level.idc)]

instance : Listed ProfileBlock where
  listed block := .record [
    ("profile_space", listed block.space),
    ("tier_flag", listed block.tierFlag),
    ("profile_idc", listed block.idc),
    ("profile_compatibility_flags", listed block.compatibility),
    ("constraint_indicator_flags", listed block.constraints)]

instance : Listed SubLayerLevel where
  listed level := .record [
    ("profile", listed level.profile),
    ("level_idc", listed level.levelIdc)]

instance : Listed ProfileTierLevel where
  listed level := .record [
    ("profile_present_flag", listed level.profileBlock.isSome),
    ("general_profile", listed level.block),
    ("general_level_idc", listed level.levelIdc),
    ("sub_layers", listed level.subLayers)]

/-! ## Usability information -/

instance : Listed Timing where
  listed timing := .record [
    ("num_units_in_tick", listed timing.unitsInTick),
    ("time_scale", listed timing.timeScale),
    ("poc_proportional_to_timing_flag", listed timing.ticksPerPictureMinus1.isSome),
    ("num_ticks_poc_diff_one_minus1", listed timing.ticksPerPictureMinus1)]

instance : Listed BitstreamRestriction where
  listed restriction := .record [
    ("tiles_fixed_structure_flag", listed restriction.tilesFixed),
    ("motion_vectors_over_pic_boundaries_flag", listed restriction.motionVectorsOverBoundaries),
    ("restricted_ref_pic_lists_flag", listed restriction.restrictedReferenceLists),
    ("min_spatial_segmentation_idc", listed restriction.minSpatialSegmentation),
    ("max_bytes_per_pic_denom", listed restriction.maxBytesPerPictureDenominator),
    ("max_bits_per_min_cu_denom", listed restriction.maxBitsPerCodingUnitDenominator),
    ("log2_max_mv_length_horizontal", listed restriction.log2MaxHorizontalVectorLength),
    ("log2_max_mv_length_vertical", listed restriction.log2MaxVerticalVectorLength)]

instance : Listed BufferSchedule where
  listed schedule := .record [
    ("bit_rate_value_minus1", listed schedule.bitRateMinus1),
    ("cpb_size_value_minus1", listed schedule.bufferSizeMinus1),
    ("cpb_size_du_value_minus1", listed schedule.unitBufferSizeMinus1),
    ("bit_rate_du_value_minus1", listed schedule.unitBitRateMinus1),
    ("cbr_flag", listed schedule.constantBitRate)]

instance : Listed SubLayerBufferModel where
  listed model := .record [
    ("fixed_pic_rate_general_flag", listed model.fixedRateInGeneral),
    ("fixed_pic_rate_within_cvs_flag", listed model.fixedRateInSequence),
    ("elemental_duration_in_tc_minus1", listed model.elementalDurationMinus1),
    ("low_delay_hrd_flag", listed model.lowDelay),
    ("cpb_cnt_minus1", listed model.scheduleCountMinus1),
    ("nal", listed model.nal),
    ("vcl", listed model.vcl)]

instance : Listed BufferModel where
  listed model :=
    let shared := model.shared
    let removal := shared.unitRemoval
    .record [
      ("nal_hrd_parameters_present_flag", listed shared.nalPresent),
      ("vcl_hrd_parameters_present_flag", listed shared.vclPresent),
      ("sub_pic_hrd_params_present_flag", listed removal.isSome),
      ("tick_divisor_minus2", listed ((removal.map (·.tickDivisorMinus2)).getD 0)),
      ("du_cpb_removal_delay_increment_length_minus1",
        listed ((removal.map (·.delayIncrementLengthMinus1)).getD 0)),
      ("sub_pic_cpb_params_in_pic_timing_sei_flag",
        listed ((removal.map (·.inTimingMessages)).getD false)),
      ("dpb_output_delay_du_length_minus1",
        listed ((removal.map (·.outputDelayLengthMinus1)).getD 0)),
      ("bit_rate_scale", listed shared.bitRateScale),
      ("cpb_size_scale", listed shared.bufferSizeScale),
      ("cpb_size_du_scale", listed ((removal.map (·.bufferSizeScale)).getD 0)),
      ("initial_cpb_removal_delay_length_minus1", listed shared.initialRemovalDelayLengthMinus1),
      ("au_cpb_removal_delay_length_minus1", listed shared.removalDelayLengthMinus1),
      ("dpb_output_delay_length_minus1", listed shared.outputDelayLengthMinus1),
      ("sub_layers", listed model.subLayers)]

instance : Listed VideoUsability where
  listed usability := .record (usability.signal.elements "matrix_coeffs" ++ [
    ("neutral_chroma_indication_flag", listed usability.neutralChroma),
    ("field_seq_flag", listed usability.fieldSequence),
    ("frame_field_info_present_flag", listed usability.frameFieldInfoPresent),
    ("default_display_window", listed (usability.displayWindow.map (·.listing ""))),
    ("timing_info", listed usability.timing),
    ("hrd", listed usability.bufferModel),
    ("bitstream_restriction", listed usability.restriction)])

/-! ## Shared parts of parameter sets -/

instance : Listed SubLayerOrdering where
  listed ordering := .record [
    ("max_dec_pic_buffering_minus1", listed ordering.maxStoredPicturesMinus1),
    ("max_num_reorder_pics", listed ordering.maxReorderedPictures),
    ("max_latency_increase_plus1", listed ordering.maxLatencyIncreasePlus1)]

instance : Listed ScalingList where
  listed list := .record [
    ("size_id", listed list.sizeId),
    ("matrix_id", listed list.matrixId),
    ("explicit", listed list.isExplicit),
    ("coefficients", listed list.coefficients),
    ("dc_coef", listed list.constantCoefficient)]

instance : Listed ScalingLists where
  listed lists := .record [("lists", listed lists.lists)]

instance : Listed ShortTermSet where
  listed set := .record [
    ("inter_ref_pic_set_prediction_flag", listed set.prediction.isSome),
    ("delta_idx_minus1", listed ((set.prediction.map (·.distanceMinus1)).getD 0)),
    ("delta_rps", listed ((set.prediction.map (·.shift)).getD 0)),
    ("delta_poc_s0", listed (set.before.map (·.delta))),
    ("used_by_curr_pic_s0", listed (set.before.map (·.used))),
    ("delta_poc_s1", listed (set.after.map (·.delta))),
    ("used_by_curr_pic_s1", listed (set.after.map (·.used)))]

/-- The syntax elements of the extension flags of a sequence or picture parameter set, whose names
open with its abbreviation. -/
def ExtensionFlags.listing (flags : ExtensionFlags) (abbreviation : String) : Element :=
  .record [
    (abbreviation ++ "_range_extension_flag", listed flags.range),
    (abbreviation ++ "_multilayer_extension_flag", listed flags.multilayer),
    (abbreviation ++ "_3d_extension_flag", listed flags.threeD),
    (abbreviation ++ "_scc_extension_flag", listed flags.screenContent),
    (abbreviation ++ "_extension_4bits", listed flags.others)]

/-! ## Video parameter sets -/

instance : Listed LayerSetBufferModel where
  listed model := .record [
    ("hrd_layer_set_idx", listed model.layerSet),
    ("cprms_present_flag", listed model.sharedPresent),
    ("hrd", listed model.model)]

instance : Listed VideoParameterSet where
  listed set := .record [
    ("vps_video_parameter_set_id", listed set.id),
    ("vps_base_layer_internal_flag", listed set.baseLayerInternal),
    ("vps_base_layer_available_flag", listed set.baseLayerAvailable),
    ("vps_max_layers_minus1", listed set.maxLayersMinus1),
    ("vps_max_sub_layers_minus1", listed set.maxSubLayersMinus1),
    ("vps_temporal_id_nesting_flag", listed set.temporalIdNesting),
    ("profile_tier_level", listed set.profileTierLevel),
    ("vps_sub_layer_ordering_info_present_flag", listed set.orderingOfEach),
    ("sub_layer_ordering", listed set.ordering),
    ("vps_max_layer_id", listed set.maxLayerId),
    ("vps_num_layer_sets_minus1", listed set.layerSets.length),
    ("layer_id_included", listed set.layerSets),
    ("timing_info", listed set.timing),
    ("hrd", listed set.bufferModels),
    ("vps_extension_flag", listed set.extended)]

/-! ## Sequence parameter sets -/

instance : Listed PcmBlocks where
  listed blocks := .record [
    ("pcm_sample_bit_depth_luma_minus1", listed blocks.lumaDepthMinus1),
    ("pcm_sample_bit_depth_chroma_minus1", listed blocks.chromaDepthMinus1),
    ("log2_min_pcm_luma_coding_block_size_minus3", listed blocks.log2MinSizeMinus3),
    ("log2_diff_max_min_pcm_luma_coding_block_size", listed blocks.log2SizeRange),
    ("pcm_loop_filter_disabled_flag", listed blocks.loopFilterDisabled)]

/-- The coded scaling lists, if there are any. -/
def Scaling.lists? : Scaling → Option ScalingLists
  | coded lists => some lists
  | _ => none

instance : Listed SequenceParameterSet where
  listed set :=
    let candidates := set.longTermCandidates.getD []
    .record [
      ("sps_video_parameter_set_id", listed set.videoSetId),
      ("sps_max_sub_layers_minus1", listed set.maxSubLayersMinus1),
      ("sps_temporal_id_nesting_flag", listed set.temporalIdNesting),
      ("profile_tier_level", listed set.profileTierLevel),
      ("sps_seq_parameter_set_id", listed set.id),
      ("chroma_format_idc", listed set.chroma),
      ("separate_colour_plane_flag", listed set.separatePlanes),
      ("pic_width_in_luma_samples", listed set.codedWidth),
      ("pic_height_in_luma_samples", listed set.codedHeight),
      ("conformance_window", listed (set.conformanceWindow.map (·.listing ""))),
      ("bit_depth_luma_minus8", listed set.lumaDepthMinus8),
      ("bit_depth_chroma_minus8", listed set.chromaDepthMinus8),
      ("log2_max_pic_order_cnt_lsb_minus4", listed set.log2MaxPictureOrderMinus4),
      ("sps_sub_layer_ordering_info_present_flag", listed set.orderingOfEach),
      ("sub_layer_ordering", listed set.ordering),
      ("log2_min_luma_coding_block_size_minus3", listed set.blocks.log2MinCodingMinus3),
      ("log2_diff_max_min_luma_coding_block_size", listed set.blocks.log2CodingRange),
      ("log2_min_luma_transform_block_size_minus2", listed set.blocks.log2MinTransformMinus2),
      ("log2_diff_max_min_luma_transform_block_size", listed set.blocks.log2TransformRange),
      ("max_transform_hierarchy_depth_inter", listed set.blocks.maxTransformDepthInter),
      ("max_transform_hierarchy_depth_intra", listed set.blocks.maxTransformDepthIntra),
      ("scaling_list_enabled_flag", listed (set.scaling != .flat)),
      ("scaling_list_data", listed set.scaling.lists?),
      ("amp_enabled_flag", listed set.asymmetricPartitions),
      ("sample_adaptive_offset_enabled_flag", listed set.sampleAdaptiveOffset),
      ("pcm", listed set.pcm),
      ("st_ref_pic_sets", listed set.shortTermSets),
      ("long_term_ref_pics_present_flag", listed set.longTermCandidates.isSome),
      ("lt_ref_pic_poc_lsb_sps", listed (candidates.map (·.lowBits))),
      ("used_by_curr_pic_lt_sps_flag", listed (candidates.map (·.used))),
      ("sps_temporal_mvp_enabled_flag", listed set.temporalMotionPrediction),
      ("strong_intra_smoothing_enabled_flag", listed set.strongIntraSmoothing),
      ("vui", listed set.usability),
      ("extensions", set.extensions.listing "sps")]

/-! ## Picture parameter sets -/

instance : Listed TileGrid where
  listed grid := .record [
    ("num_tile_columns_minus1", listed grid.columnsMinus1),
    ("num_tile_rows_minus1", listed grid.rowsMinus1),
    ("uniform_spacing_flag", listed grid.sizes.isNone),
    ("column_width_minus1", listed ((grid.sizes.map (·.columnWidthsMinus1)).getD [])),
    ("row_height_minus1", listed ((grid.sizes.map (·.rowHeightsMinus1)).getD [])),
    ("loop_filter_across_tiles_enabled_flag", listed grid.loopFilterAcross)]

instance : Listed DeblockingControl where
  listed deblocking := .record [
    ("deblocking_filter_override_enabled_flag", listed deblocking.overrideEnabled),
    ("pps_deblocking_filter_disabled_flag", listed deblocking.disabled),
    ("pps_beta_offset_div2", listed deblocking.betaOffsetDiv2),
    ("pps_tc_offset_div2", listed deblocking.tcOffsetDiv2)]

instance : Listed PictureRangeExtension where
  listed range :=
    let lists := range.chromaOffsetLists
    let offsets := (lists.map (·.offsets)).getD []
    .record [
      ("log2_max_transform_skip_block_size_minus2", listed range.log2MaxTransformSkipMinus2),
      ("cross_component_prediction_enabled_flag", listed range.crossComponentPrediction),
      ("chroma_qp_offset_list_enabled_flag", listed lists.isSome),
      ("diff_cu_chroma_qp_offset_depth", listed ((lists.map (·.depth)).getD 0)),
      ("chroma_qp_offset_list_len_minus1", listed (offsets.length - 1)),
      ("cb_qp_offset_list", listed (offsets.map Prod.fst)),
      ("cr_qp_offset_list", listed (offsets.map Prod.snd)),
      ("log2_sao_offset_scale_luma", listed range.log2LumaOffsetScale),
      ("log2_sao_offset_scale_chroma", listed range.log2ChromaOffsetScale)]

instance : Listed PictureParameterSet where
  listed set := .record [
    ("pps_pic_parameter_set_id", listed set.id),
    ("pps_seq_parameter_set_id", listed set.sequenceId),
    ("dependent_slice_segments_enabled_flag", listed set.dependentSegments),
    ("output_flag_present_flag", listed set.outputFlagPresent),
    ("num_extra_slice_header_bits", listed set.reservedFlagCount),
    ("sign_data_hiding_enabled_flag", listed set.signDataHiding),
    ("cabac_init_present_flag", listed set.arithmeticInitPresent),
    ("num_ref_idx_l0_default_active_minus1", listed set.defaultActiveList0Minus1),
    ("num_ref_idx_l1_default_active_minus1", listed set.defaultActiveList1Minus1),
    ("init_qp_minus26", listed set.initialQpMinus26),
    ("constrained_intra_pred_flag", listed set.constrainedIntraPrediction),
    ("transform_skip_enabled_flag", listed set.transformSkip),
    ("cu_qp_delta_enabled_flag", listed set.qpDeltaDepth.isSome),
    ("diff_cu_qp_delta_depth", listed (set.qpDeltaDepth.getD 0)),
    ("pps_cb_qp_offset", listed set.cbQpOffset),
    ("pps_cr_qp_offset", listed set.crQpOffset),
    ("pps_slice_chroma_qp_offsets_present_flag", listed set.sliceChromaOffsetsPresent),
    ("weighted_pred_flag", listed set.weightedPrediction),
    ("weighted_bipred_flag", listed set.weightedBiprediction),
    ("transquant_bypass_enabled_flag", listed set.transquantBypass),
    ("entropy_coding_sync_enabled_flag", listed set.entropySynchronisation),
    ("tiles", listed set.tiles),
    ("pps_loop_filter_across_slices_enabled_flag", listed set.loopFilterAcrossSlices),
    ("deblocking", listed set.deblocking),
    ("pps_scaling_list_data", listed set.scalingLists),
    ("lists_modification_present_flag", listed set.listModificationPresent),
    ("log2_parallel_merge_level_minus2", listed set.log2MergeLevelMinus2),
    ("slice_segment_header_extension_present_flag", listed set.headerExtensionPresent),
    ("extensions", set.extensions.listing "pps"),
    ("pps_range_extension", listed set.rangeExtension)]

/-! ## Slice segment headers -/

instance : Listed SliceType where
  listed
    | .b => .text "B"
    | .p => .text "P"
    | .i => .text "I"

instance : Listed LongTermReference where
  listed reference := .record [
    ("lt_idx_sps", listed reference.candidateIndex),
    ("poc_lsb_lt", listed reference.picture.lowBits),
    ("used_by_curr_pic_lt_flag", listed reference.picture.used),
    ("delta_poc_msb_cycle_lt", listed reference.highBitsDelta)]

instance : Listed ListModification where
  listed modification := .record [
    ("list_entry_l0", listed modification.list0),
    ("list_entry_l1", listed modification.list1)]

instance : Listed WeightTable where
  listed table := .record [
    ("luma_log2_weight_denom", listed table.lumaLog2Denominator),
    ("chroma_log2_weight_denom", listed table.chromaLog2Denominator),
    ("l0", listed table.list0),
    ("l1", listed table.list1)]

/-- The syntax elements of the start of a segment. -/
def SegmentStart.elements (start : SegmentStart) : List (String × Element) :=
  [("first_slice_segment_in_pic_flag", listed start.isFirst),
    ("no_output_of_prior_pics_flag", listed start.noOutputOfPriorPictures),
    ("slice_pic_parameter_set_id", listed start.pictureSetId),
    ("dependent_slice_segment_flag", listed start.isDependent),
    ("slice_segment_address", listed start.address),
    ("slice_reserved_flags", listed start.reservedFlags),
    ("slice_type", listed start.sliceType)]

/-- The syntax elements of the choice of a short-term set. -/
def ShortTermChoice.elements (choice : ShortTermChoice) : List (String × Element) :=
  let (fromSequence, set, sizeInBits, index) :=
    match choice with
    | refresh => (false, none, 0, 0)
    | own set sizeInBits => (false, some set, sizeInBits, 0)
    | ofSequence index => (true, none, 0, index)
  [("short_term_ref_pic_set_sps_flag", listed fromSequence),
    ("short_term_ref_pic_set", listed set),
    ("short_term_ref_pic_set_size_bits", listed sizeInBits),
    ("short_term_ref_pic_set_idx", listed index)]

/-- The syntax elements of the pictures that are kept. -/
def KeptPictures.elements (kept : KeptPictures) : List (String × Element) :=
  [("slice_pic_order_cnt_lsb", listed kept.pictureOrderLowBits)] ++
    kept.shortTerm.elements ++
    [("num_long_term_sps", listed kept.chosenLongTerm.length),
      ("num_long_term_pics", listed kept.codedLongTerm.length),
      ("long_term_refs", listed kept.longTerm),
      ("slice_temporal_mvp_enabled_flag", listed kept.temporalMotionPrediction)]

/-- The syntax elements of the references to other pictures. -/
def InterFields.elements (inter : InterFields) : List (String × Element) :=
  [("num_ref_idx_active_override_flag", listed inter.active.overridden),
    ("num_ref_idx_l0_active_minus1", listed inter.active.list0Minus1),
    ("num_ref_idx_l1_active_minus1", listed inter.active.list1Minus1),
    ("ref_pic_lists_modification", listed inter.modification),
    ("mvd_l1_zero_flag", listed inter.zeroList1Differences),
    ("cabac_init_flag", listed inter.arithmeticInit),
    ("collocated_from_l0_flag", listed inter.collocated.fromList0),
    ("collocated_ref_idx", listed inter.collocated.index),
    ("pred_weight_table", listed inter.weights),
    ("five_minus_max_num_merge_cand", listed inter.fiveMinusMergeCandidates)]

/-- The syntax elements of the fields of a slice. -/
def SliceFields.elements (fields : SliceFields) : List (String × Element) :=
  [("pic_output_flag", listed fields.pictureOutput),
    ("colour_plane_id", listed fields.colourPlane)] ++
    fields.kept.elements ++
    [("slice_sao_luma_flag", listed fields.lumaSampleOffset),
      ("slice_sao_chroma_flag", listed fields.chromaSampleOffset),
      ("num_pic_total_curr", listed fields.usedPictureCount)] ++
    fields.inter.elements ++
    [("slice_qp_delta", listed fields.qpDelta),
      ("slice_cb_qp_offset", listed fields.cbQpOffset),
      ("slice_cr_qp_offset", listed fields.crQpOffset),
      ("cu_chroma_qp_offset_enabled_flag", listed fields.chromaOffsetLists),
      ("deblocking_filter_override_flag", listed fields.deblocking.overridden),
      ("slice_deblocking_filter_disabled_flag", listed fields.deblocking.disabled),
      ("slice_beta_offset_div2", listed fields.deblocking.betaOffsetDiv2),
      ("slice_tc_offset_div2", listed fields.deblocking.tcOffsetDiv2),
      ("slice_loop_filter_across_slices_enabled_flag", listed fields.loopFilterAcrossSlices)]

instance : Listed SliceSegment where
  listed segment :=
    let header := segment.header
    .record (
      [("nal_unit_type", listed header.unit.unitType),
        ("temporal_id", listed header.unit.temporalId)] ++
      header.start.elements ++
      header.fields.elements ++
      [("offset_len_minus1", listed header.entryPoints.offsetLengthMinus1),
        ("entry_point_offset_minus1", listed header.entryPoints.offsetsMinus1),
        ("slice_segment_header_extension_data", listed header.extensionData),
        ("size_bits", listed header.sizeInBits),
        ("data_offset", listed segment.dataOffset)])

end CodedVideo.Hevc
