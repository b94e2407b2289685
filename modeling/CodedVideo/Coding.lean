import CodedVideo.CodedField
import CodedVideo.PredictionWeight
import CodedVideo.SignalDescription
import CodedVideo.Window

/-!
# Coding of shared structures

The fields of the structures that several codecs code alike, in coding order.
-/

namespace CodedVideo

open CodedField

/-- The fields of a window. -/
def Window.coding (window : Window) : List CodedField :=
  [.unsigned window.left, .unsigned window.right, .unsigned window.top, .unsigned window.bottom]

/-- The fields of a weight. -/
def Weight.coding (weight : Weight) : List CodedField :=
  [.signed weight.factor, .signed weight.offset]

/-- The fields of the weights of the two chroma planes. -/
def Weight.pairCoding (weights : Weight × Weight) : List CodedField :=
  weights.1.coding ++ weights.2.coding

/-- The fields of a sample aspect ratio. -/
def CodedAspectRatio.coding (aspect : CodedAspectRatio) : List CodedField :=
  .bits aspect.index 8 ::
    onlyIf (aspect.index == AspectRatio.extended)
      [.bits aspect.ratio.width 16, .bits aspect.ratio.height 16]

/-- The fields of a colour space. -/
def ColourDescription.coding (colour : ColourDescription) : List CodedField :=
  [.bits colour.primaries 8, .bits colour.transferCharacteristics 8,
    .bits colour.matrixCoefficients 8]

/-- The fields of the kind of the video signal. -/
def VideoSignalType.coding (signalType : VideoSignalType) : List CodedField :=
  [.bits signalType.format 3, .flag signalType.fullRange] ++
    flagged ColourDescription.coding signalType.colour

/-- The fields that say where chroma samples lie. -/
def ChromaLocation.coding (location : ChromaLocation) : List CodedField :=
  [.unsigned location.topField, .unsigned location.bottomField]

/-- The fields of a signal description. -/
def SignalDescription.coding (description : SignalDescription) : List CodedField :=
  flagged CodedAspectRatio.coding description.aspectRatio ++
    flagged (fun overscan => [.flag overscan]) description.overscan ++
    flagged VideoSignalType.coding description.signalType ++
    flagged ChromaLocation.coding description.chromaLocation

end CodedVideo
