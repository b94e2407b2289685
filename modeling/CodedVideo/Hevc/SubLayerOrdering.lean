import CodedVideo.Decoder.Basic

/-!
# HEVC sub-layer ordering

How many pictures each temporal sub-layer keeps and reorders. Where only the highest sub-layer is
coded, those below it have its values.
-/

namespace CodedVideo.Hevc

/-- The number of pictures that a sub-layer keeps and reorders. -/
structure SubLayerOrdering where
  maxStoredPicturesMinus1 : Nat
  maxReorderedPictures : Nat
  maxLatencyIncreasePlus1 : Nat
deriving DecidableEq, Repr

namespace SubLayerOrdering

open Decoder

/-- The grammar of one sub-layer. -/
def decoder : Decoder SubLayerOrdering := do
  let maxStoredPicturesMinus1 ← unsigned
  let maxReorderedPictures ← unsigned
  let maxLatencyIncreasePlus1 ← unsigned
  return { maxStoredPicturesMinus1, maxReorderedPictures, maxLatencyIncreasePlus1 }

/-- The grammar of all sub-layers, where each is coded or only the highest. -/
def listDecoder (eachCoded : Bool) (maxSubLayersMinus1 : Nat) :
    Decoder (List SubLayerOrdering) := do
  if eachCoded then replicate (maxSubLayersMinus1 + 1) decoder
  else return List.replicate (maxSubLayersMinus1 + 1) (← decoder)

end SubLayerOrdering

end CodedVideo.Hevc
