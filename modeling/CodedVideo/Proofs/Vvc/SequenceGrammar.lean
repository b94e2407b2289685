import CodedVideo.Proofs.Decoder.Attributed
import CodedVideo.Proofs.SharedGrammar
import CodedVideo.Vvc.SequenceParameterSet

/-!
# The grammar of VVC sequence parameter sets

No part of a sequence parameter set is decoded by looking ahead, and each error names a structure.
-/

namespace CodedVideo.Vvc

open Decoder (Attributed Blind)

instance NalHeader.blind_decoder : Blind NalHeader.decoder := by
  rw [NalHeader.decoder]
  infer_instance

instance NalHeader.attributed_decoder : Attributed NalHeader.decoder := by
  rw [NalHeader.decoder]
  infer_instance

instance GeneralConstraints.blind_decoder : Blind GeneralConstraints.decoder := by
  rw [GeneralConstraints.decoder]
  infer_instance

namespace ProfileTierLevel

instance blind_constraintsDecoder : Blind constraintsDecoder := by
  rw [constraintsDecoder]
  infer_instance

instance blind_subLayersBelow (higher : Nat) (present : List Bool) (levels : List SubLayerLevel) :
    Blind (subLayersBelow higher present levels) := by
  induction present generalizing higher levels with
  | nil => exact Blind.done levels
  | cons isCoded rest inductionHypothesis =>
      rw [subLayersBelow]
      infer_instance

instance blind_decoder (profilePresent : Bool) (maxSubLayersMinus1 : Nat) :
    Blind (decoder profilePresent maxSubLayersMinus1) := by
  rw [decoder, fields]
  infer_instance

end ProfileTierLevel

namespace SequenceParameterSet

instance blind_subLayersDecoder : Blind subLayersDecoder := by
  rw [subLayersDecoder]
  infer_instance

instance blind_treeSizeDecoder : Blind treeSizeDecoder := by
  rw [treeSizeDecoder]
  infer_instance

instance blind_sizeDecoder : Blind sizeDecoder := by
  rw [sizeDecoder]
  infer_instance

instance blind_fields : Blind fields := by
  rw [fields]
  infer_instance

instance blind_decoder : Blind decoder := by
  rw [decoder]
  infer_instance

instance attributed_decoder : Attributed decoder := by
  rw [decoder]
  infer_instance

end SequenceParameterSet

end CodedVideo.Vvc
