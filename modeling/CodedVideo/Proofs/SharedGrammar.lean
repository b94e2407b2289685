import CodedVideo.PredictionWeight
import CodedVideo.Proofs.Decoder.Blind
import CodedVideo.SignalDescription
import CodedVideo.Window

/-!
# Shared grammars that never look ahead
-/

namespace CodedVideo

open Decoder (Blind)

instance Weight.blind_decoder : Blind Weight.decoder := by
  rw [Weight.decoder]
  infer_instance

instance Weight.blind_pairDecoder : Blind Weight.pairDecoder := by
  rw [Weight.pairDecoder]
  infer_instance

instance Window.blind_decoder : Blind Window.decoder := by
  rw [Window.decoder]
  infer_instance

/-! ## Signal descriptions -/

instance CodedAspectRatio.blind_decoder : Blind CodedAspectRatio.decoder := by
  rw [CodedAspectRatio.decoder]
  infer_instance

instance ColourDescription.blind_decoder : Blind ColourDescription.decoder := by
  rw [ColourDescription.decoder]
  infer_instance

instance VideoSignalType.blind_decoder : Blind VideoSignalType.decoder := by
  rw [VideoSignalType.decoder]
  infer_instance

instance ChromaLocation.blind_decoder : Blind ChromaLocation.decoder := by
  rw [ChromaLocation.decoder]
  infer_instance

instance SignalDescription.blind_decoder : Blind SignalDescription.decoder := by
  rw [SignalDescription.decoder]
  infer_instance

end CodedVideo
