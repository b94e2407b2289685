import CodedVideo.Decoder.Basic

/-!
# Weights of weighted prediction
-/

namespace CodedVideo

/-- A factor and what is added behind it. -/
structure Weight where
  factor : Int
  offset : Int
deriving DecidableEq, Repr

/-- The explicit weights of one reference picture. -/
structure PredictionWeight where
  luma : Option Weight
  /-- The weights of the two chroma planes. -/
  chroma : Option (Weight × Weight)
deriving DecidableEq, Repr

namespace Weight

open Decoder

/-- The grammar of a weight. -/
def decoder : Decoder Weight := do
  let factor ← signed
  let offset ← signed
  return { factor, offset }

/-- The weights of the two chroma planes. -/
def pairDecoder : Decoder (Weight × Weight) := do
  let first ← decoder
  let second ← decoder
  return (first, second)

end Weight

end CodedVideo
