import CodedVideo.ExpGolomb
import CodedVideo.PredictionWeight
import CodedVideo.Proofs.Decoder.Confined
import CodedVideo.Saturation
import CodedVideo.SignalDescription
import CodedVideo.Window

/-!
# Shared grammars that stay within a unit
-/

namespace CodedVideo

open Decoder (Confined)

variable {start : Nat} {mayRefer : Prop}

/-- So many values are told apart by a field that one read can move. -/
theorem ceilLog2_le {count width : Nat} (count_le : count ≤ 1 <<< width) :
    ceilLog2 count ≤ width := by
  rw [ceilLog2]
  split
  · exact Nat.zero_le width
  · next several =>
    rw [Nat.one_shiftLeft] at count_le
    exact (Nat.log2_lt (by omega)).mpr (by omega)

/-- A field that tells apart as many values as a derived size says fits one read. -/
instance atMost_ceilLog2_saturate (size : Nat) : AtMost 32 (ceilLog2 (saturate size)) where
  le := by
    refine ceilLog2_le (Nat.le_trans (Nat.min_le_right size sizeLimit) ?_)
    decide

namespace Weight

instance confined_decoder : Confined start mayRefer decoder := by
  unfold decoder
  infer_instance

instance confined_pairDecoder : Confined start mayRefer pairDecoder := by
  unfold pairDecoder
  infer_instance

end Weight

instance Window.confined_decoder : Confined start mayRefer Window.decoder := by
  unfold Window.decoder
  infer_instance

instance SignalDescription.confined_decoder :
    Confined start mayRefer SignalDescription.decoder := by
  unfold SignalDescription.decoder CodedAspectRatio.decoder VideoSignalType.decoder
    ColourDescription.decoder ChromaLocation.decoder
  infer_instance

end CodedVideo
