import CodedVideo.AspectRatio
import CodedVideo.Decoder.Basic

/-!
# Descriptions of the video signal

How decoded pictures are meant to be shown: the shape of a sample, overscan, the colour space and
where chroma samples lie. The grammar is the same in every codec that codes it.
-/

namespace CodedVideo

/-! ## Parts -/

/-- A coded sample aspect ratio. -/
structure CodedAspectRatio where
  index : Nat
  /-- The ratio that the index names or that follows it; zero by zero for reserved indices. -/
  ratio : AspectRatio
deriving DecidableEq, Repr

/-- The colour space of the samples. -/
structure ColourDescription where
  primaries : Nat
  transferCharacteristics : Nat
  matrixCoefficients : Nat
deriving DecidableEq, Repr

/-- The kind of the video signal. -/
structure VideoSignalType where
  format : Nat
  fullRange : Bool
  colour : Option ColourDescription
deriving DecidableEq, Repr

/-- Where chroma samples lie in each field. -/
structure ChromaLocation where
  topField : Nat
  bottomField : Nat
deriving DecidableEq, Repr

/-- How decoded pictures are meant to be shown. -/
structure SignalDescription where
  aspectRatio : Option CodedAspectRatio
  /-- Whether pictures suit display with overscan. -/
  overscan : Option Bool
  signalType : Option VideoSignalType
  chromaLocation : Option ChromaLocation
deriving DecidableEq, Repr

/-! ## Grammar -/

open Decoder

/-- A sample aspect ratio: an index, and behind the extended index the ratio itself. -/
def CodedAspectRatio.decoder : Decoder CodedAspectRatio := do
  let index ← bits 8
  if index = AspectRatio.extended then
    let width ← bits 16
    let height ← bits 16
    return { index, ratio := { width, height } }
  else
    return { index, ratio := (AspectRatio.ofIndex? index).getD { width := 0, height := 0 } }

/-- A colour space. -/
def ColourDescription.decoder : Decoder ColourDescription := do
  let primaries ← bits 8
  let transferCharacteristics ← bits 8
  let matrixCoefficients ← bits 8
  return { primaries, transferCharacteristics, matrixCoefficients }

/-- The kind of the video signal. -/
def VideoSignalType.decoder : Decoder VideoSignalType := do
  let format ← bits 3
  let fullRange ← flag
  let colour ← optional (← flag) ColourDescription.decoder
  return { format, fullRange, colour }

/-- Where chroma samples lie. -/
def ChromaLocation.decoder : Decoder ChromaLocation := do
  let topField ← unsigned
  let bottomField ← unsigned
  return { topField, bottomField }

/-- A signal description: each part stands behind a flag that says whether it is there. -/
def SignalDescription.decoder : Decoder SignalDescription := do
  let aspectRatio ← optional (← flag) CodedAspectRatio.decoder
  let overscan ← optional (← flag) flag
  let signalType ← optional (← flag) VideoSignalType.decoder
  let chromaLocation ← optional (← flag) ChromaLocation.decoder
  return { aspectRatio, overscan, signalType, chromaLocation }

namespace SignalDescription

/-- The sample aspect ratio, if it is coded and its width is not zero. -/
def aspectRatio? (description : SignalDescription) : Option AspectRatio :=
  (description.aspectRatio.map CodedAspectRatio.ratio).filter (·.width != 0)

end SignalDescription

end CodedVideo
