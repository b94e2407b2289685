import CodedVideo.Proofs.SharedConfinement
import CodedVideo.Proofs.Vvc.SequenceGrammar

/-!
# VVC sequence parameter sets stay within a unit
-/

namespace CodedVideo.Vvc

-- The search for the instance of a parameter set has a step for each of its fields.
set_option synthInstance.maxSize 256

open Decoder (Confined)

variable {start : Nat} {mayRefer : Prop}

/-- The fields of a unit header are located at the bits where they stand. -/
instance NalHeader.confined_decoder : Confined start mayRefer NalHeader.decoder := by
  refine Confined.flagAt (Nat.zero_le start) fun forbidden => ?_
  refine Confined.behind fun _ => ?_
  refine Confined.flagAt (by omega) fun reserved => ?_
  refine Confined.behind fun _ => ?_
  refine Confined.bitsAt (by omega) (by decide) fun layerId => ?_
  refine Confined.bitsAt (by omega) (by decide) fun code => ?_
  exact Confined.bitsAt (by omega) (by decide) fun temporalIdPlus1 => inferInstance

namespace ProfileTierLevel

instance confined_constraintsDecoder : Confined start mayRefer constraintsDecoder := by
  unfold constraintsDecoder GeneralConstraints.decoder
  infer_instance

instance confined_subLayersBelow (higher : Nat) (present : List Bool)
    (levels : List SubLayerLevel) :
    Confined start mayRefer (subLayersBelow higher present levels) := by
  induction present generalizing higher levels with
  | nil => exact Confined.done levels
  | cons isCoded rest inductionHypothesis =>
      rw [subLayersBelow]
      infer_instance

instance confined_decoder (profilePresent : Bool) (maxSubLayersMinus1 : Nat) :
    Confined start mayRefer (decoder profilePresent maxSubLayersMinus1) := by
  unfold decoder fields
  infer_instance

end ProfileTierLevel

namespace SequenceParameterSet

instance confined_fields : Confined start mayRefer fields := by
  unfold fields subLayersDecoder treeSizeDecoder sizeDecoder
  infer_instance

instance confined_decoder : Confined start mayRefer decoder := by
  unfold decoder
  infer_instance

end SequenceParameterSet

end CodedVideo.Vvc
