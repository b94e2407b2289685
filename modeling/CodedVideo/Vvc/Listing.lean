import CodedVideo.Listing
import CodedVideo.Vvc.SequenceParameterSet

/-!
# Listings of VVC structures
-/

namespace CodedVideo.Vvc

/-! ## Units -/

instance : Listed NalUnitType where
  listed
    | .trail => .text "TrailNut"
    | .stsa => .text "StsaNut"
    | .radl => .text "RadlNut"
    | .rasl => .text "RaslNut"
    | .idrWithRadl => .text "IdrWRadl"
    | .idrWithoutLeading => .text "IdrNLp"
    | .cra => .text "CraNut"
    | .gdr => .text "GdrNut"
    | .operatingPoint => .text "OpiNut"
    | .decodingCapability => .text "DciNut"
    | .vps => .text "VpsNut"
    | .sps => .text "SpsNut"
    | .pps => .text "PpsNut"
    | .prefixAps => .text "PrefixApsNut"
    | .suffixAps => .text "SuffixApsNut"
    | .pictureHeader => .text "PhNut"
    | .accessUnitDelimiter => .text "AudNut"
    | .endOfSequence => .text "EosNut"
    | .endOfBitstream => .text "EobNut"
    | .prefixSei => .text "PrefixSeiNut"
    | .suffixSei => .text "SuffixSeiNut"
    | .filler => .text "FdNut"
    | .reserved code => .choice "Reserved" (listed code)
    | .unspecified code => .choice "Unspecified" (listed code)

instance : Listed NalHeader where
  listed header := .record [
    ("nuh_layer_id", listed header.layerId),
    ("nal_unit_type", listed header.unitType),
    ("nuh_temporal_id_plus1", listed header.temporalIdPlus1)]

/-! ## Profiles, tiers and levels -/

instance : Listed Profile where
  listed
    | .main10 => .text "Main10"
    | .main10With444 => .text "Main10_444"
    | .main10StillPicture => .text "Main10StillPicture"
    | .main10With444StillPicture => .text "Main10_444StillPicture"
    | .multilayerMain10 => .text "MultilayerMain10"
    | .multilayerMain10With444 => .text "MultilayerMain10_444"
    | .main12 => .text "Main12"
    | .main12Intra => .text "Main12Intra"
    | .main12With444 => .text "Main12_444"
    | .main12With444Intra => .text "Main12_444Intra"
    | .main16With444 => .text "Main16_444"
    | .main16With444Intra => .text "Main16_444Intra"

instance : Listed Tier where
  listed tier := .text tier.name

instance : Listed Level where
  listed level := .record [("level_idc", listed level.idc)]

instance : Listed GeneralConstraints where
  listed constraints := .record [
    ("gci_intra_only_constraint_flag", listed constraints.intraOnly),
    ("gci_all_layers_independent_constraint_flag", listed constraints.layersIndependent),
    ("gci_one_au_only_constraint_flag", listed constraints.oneAccessUnit),
    ("gci_sixteen_minus_max_bitdepth_constraint_idc", listed constraints.sixteenMinusMaxDepth),
    ("gci_three_minus_max_chroma_format_constraint_idc", listed constraints.threeMinusMaxChroma),
    ("gci_constraint_flags", listed constraints.flags),
    ("gci_additional_bits", listed constraints.additional)]

instance : Listed ProfileTierLevel where
  listed level := .record [
    ("general_profile_idc", listed level.profileIdc),
    ("general_tier_flag", listed level.tierFlag),
    ("general_level_idc", listed level.levelIdc),
    ("ptl_frame_only_constraint_flag", listed level.framesOnly),
    ("ptl_multilayer_enabled_flag", listed level.multilayerEnabled),
    ("general_constraints_info", listed level.constraints?),
    ("ptl_sublayer_level_present_flag", listed (level.subLayers.map (·.isCoded))),
    ("sublayer_level_idc", listed (level.subLayers.map (·.levelIdc))),
    ("general_sub_profile_idc",
      listed ((level.profileTier.map (·.subProfiles)).getD []))]

/-! ## Sequence parameter sets -/

instance : Listed SequenceParameterSet where
  listed set := .record [
    ("sps_seq_parameter_set_id", listed set.id),
    ("sps_video_parameter_set_id", listed set.videoSetId),
    ("sps_max_sublayers_minus1", listed set.maxSubLayersMinus1),
    ("sps_chroma_format_idc", listed set.chroma),
    ("sps_log2_ctu_size_minus5", listed set.log2TreeSizeMinus5),
    ("sps_ptl_dpb_hrd_params_present_flag", listed set.profileTierLevel.isSome),
    ("profile_tier_level", listed set.profileTierLevel),
    ("sps_gdr_enabled_flag", listed set.gradualRefresh),
    ("sps_ref_pic_resampling_enabled_flag", listed set.resampling),
    ("sps_res_change_in_clvs_allowed_flag", listed set.resolutionChanges),
    ("sps_pic_width_max_in_luma_samples", listed set.maxWidth),
    ("sps_pic_height_max_in_luma_samples", listed set.maxHeight),
    ("conformance_window", listed (set.conformanceWindow.map (·.listing "sps_conf_win_"))),
    ("sps_subpic_info_present_flag", listed set.hasSubpictures),
    ("sps_bitdepth_minus8", listed set.depthMinus8)]

end CodedVideo.Vvc
