import CodedVideo.Decoder.Staged
import CodedVideo.Hevc.SliceReferences

/-!
# HEVC slice segment headers

A segment header starts with its place in the picture. An independent segment goes on with the
fields of its slice, which a dependent one shares. Both end with the entry points into the slice
data and with extension data, and are padded to a whole number of bytes; slice data follows.
-/

namespace CodedVideo.Hevc

/-! ## Parts -/

/-- How block edges are filtered. -/
structure DeblockingFields where
  overridden : Bool
  disabled : Bool
  betaOffsetDiv2 : Int
  tcOffsetDiv2 : Int
deriving DecidableEq, Repr

/-- The fields of a slice. -/
structure SliceFields where
  pictureOutput : Bool := true
  colourPlane : Nat := 0
  kept : KeptPictures := {}
  lumaSampleOffset : Bool := false
  chromaSampleOffset : Bool := false
  /-- The number of kept pictures that the slice may refer to. -/
  usedPictureCount : Nat := 0
  inter : InterFields
  qpDelta : Int := 0
  cbQpOffset : Int := 0
  crQpOffset : Int := 0
  chromaOffsetLists : Bool := false
  deblocking : DeblockingFields
  loopFilterAcrossSlices : Bool
deriving DecidableEq, Repr

/-- The places in the slice data at which decoding can start, by their distances. -/
structure EntryPoints where
  offsetLengthMinus1 : Nat := 0
  offsetsMinus1 : List Nat := []
deriving DecidableEq, Repr

/-- A slice segment header. -/
structure SliceHeader where
  unit : NalHeader
  start : SegmentStart
  /-- The fields of the slice; what is not coded is as the picture parameter set has it. -/
  fields : SliceFields
  entryPoints : EntryPoints
  /-- Bytes that no decoder knows. -/
  extensionData : List Nat
  /-- The length of the header in bits, with the padding and without the header of the unit. -/
  sizeInBits : Nat
deriving DecidableEq, Repr

/-- A slice segment: its header, and the byte of the stored unit with which its data starts. -/
structure SliceSegment where
  header : SliceHeader
  dataOffset : Nat
deriving DecidableEq, Repr

/-- The filtering that a picture parameter set gives. -/
def DeblockingFields.inherited (pictureSet : PictureParameterSet) : DeblockingFields where
  overridden := false
  disabled := pictureSet.deblockingDisabled
  betaOffsetDiv2 := (pictureSet.deblocking.map (·.betaOffsetDiv2)).getD 0
  tcOffsetDiv2 := (pictureSet.deblocking.map (·.tcOffsetDiv2)).getD 0

/-- The fields of a segment that codes none of its own. -/
def SliceFields.inherited (pictureSet : PictureParameterSet) : SliceFields where
  inter := .inherited pictureSet
  deblocking := .inherited pictureSet
  loopFilterAcrossSlices := pictureSet.loopFilterAcrossSlices

/-! ## Grammar -/

open Decoder

open SegmentStart (structureName)

namespace DeblockingFields

/-- The filtering that a slice codes itself; with the filter off, the offsets stay. -/
def ownDecoder (deblocking : DeblockingFields) : Decoder DeblockingFields := do
  let disabled ← flag
  let betaOffsetDiv2 ← whenElse (!disabled) deblocking.betaOffsetDiv2 signed
  let tcOffsetDiv2 ← whenElse (!disabled) deblocking.tcOffsetDiv2 signed
  return { overridden := true, disabled, betaOffsetDiv2, tcOffsetDiv2 }

/-- The filtering: that of the picture parameter set, unless a flag says that the slice codes its
own. -/
def decoder (pictureSet : PictureParameterSet) : Decoder DeblockingFields := do
  let overridden ← whenElse pictureSet.deblockingOverrideEnabled false flag
  whenElse overridden (inherited pictureSet) (ownDecoder (inherited pictureSet))

end DeblockingFields

namespace SliceFields

/-- The grammar of the fields of a slice. -/
def decoder (unitType : NalUnitType) (referring : ReferringStart) (sliceType : SliceType) :
    Decoder SliceFields := do
  let pictureSet := referring.pictureSet
  let sequenceSet := referring.sequenceSet
  let sampleOffset := sequenceSet.sampleAdaptiveOffset
  let pictureOutput ← whenElse pictureSet.outputFlagPresent true flag
  let colourPlane ← whenElse sequenceSet.separatePlanes 0 (bits 2)
  let kept ← whenElse (!unitType.isIdr) {} (KeptPictures.decoder sequenceSet)
  let lumaSampleOffset ← whenElse sampleOffset false flag
  let chromaSampleOffset ← whenElse (sampleOffset && sequenceSet.codedChroma != 0) false flag
  let inter ← whenElse (!sliceType.isIntra) (.inherited pictureSet)
    (InterFields.decoder referring sliceType kept)
  let qpDelta ← signed
  let cbQpOffset ← whenElse pictureSet.sliceChromaOffsetsPresent 0 signed
  let crQpOffset ← whenElse pictureSet.sliceChromaOffsetsPresent 0 signed
  let chromaOffsetLists ← whenElse pictureSet.hasChromaOffsetLists false flag
  let deblocking ← DeblockingFields.decoder pictureSet
  let filtered := lumaSampleOffset || chromaSampleOffset || !deblocking.disabled
  let loopFilterAcrossSlices ←
    whenElse (pictureSet.loopFilterAcrossSlices && filtered) pictureSet.loopFilterAcrossSlices flag
  return {
    pictureOutput, colourPlane, kept, lumaSampleOffset, chromaSampleOffset
    usedPictureCount := kept.usedCount sequenceSet.shortTermSets
    inter, qpDelta, cbQpOffset, crQpOffset, chromaOffsetLists, deblocking, loopFilterAcrossSlices }

end SliceFields

namespace EntryPoints

/-- The grammar of entry points, of which there are fewer than the picture has coding tree
blocks. -/
def decoder (size : Nat) : Decoder EntryPoints := do
  let count ← unsigned
  require (count < max size 1)
    (.malformed structureName s!"num_entry_point_offsets {count} out of range")
  if count = 0 then return {}
  else
    let offsetLengthMinus1 ← boundedUnsigned structureName "offset_len_minus1" 31
    let offsetsMinus1 ← replicate count (bits (offsetLengthMinus1 + 1))
    return { offsetLengthMinus1, offsetsMinus1 }

end EntryPoints

namespace SliceHeader

/-- The extension data: its length, and its bytes. -/
def extensionDecoder : Decoder (List Nat) := do
  let length ← boundedUnsigned structureName "slice_segment_header_extension_length" 256
  replicate length (bits 8)

/-- A bit of the padding that is to be zero. -/
def zeroDecoder : Decoder Unit := do
  require (!(← flag)) (.malformed structureName "alignment_bit_equal_to_zero is one")

/-- The padding: a one, and zeros up to the next byte boundary. -/
def paddingDecoder : Decoder Unit := do
  require (← flag) (.malformed structureName "alignment_bit_equal_to_one is zero")
  let _ ← replicate (Bits.toBoundary (← position)) zeroDecoder
  return ()

/-- Refuses parameter sets with extensions that would add fields to the header. -/
def refuseExtensions (referring : ReferringStart) : Decoder Unit := do
  require (!referring.pictureSet.extensions.beyondRange)
    (.unsupported structureName "PPS extensions")
  require (!referring.sequenceSet.extensions.screenContent)
    (.unsupported structureName "SPS screen content coding extension")

/-- The fields of the slice; a dependent segment codes none. -/
def sliceFieldsDecoder (unit : NalHeader) (referring : ReferringStart) : Decoder SliceFields :=
  match referring.start.sliceType with
  | none => done (.inherited referring.pictureSet)
  | some sliceType => SliceFields.decoder unit.unitType referring sliceType

/-- The fields behind the header of the unit. -/
def fieldsDecoder (sequences : IdTable SequenceParameterSet)
    (pictures : IdTable PictureParameterSet) (unit : NalHeader) : Decoder SliceHeader := do
  let origin ← position
  let referring ← SegmentStart.decoder sequences pictures unit
  refuseExtensions referring
  let pictureSet := referring.pictureSet
  let fields ← sliceFieldsDecoder unit referring
  let entryPoints ← whenElse (pictureSet.tiles.isSome || pictureSet.entropySynchronisation) {}
    (EntryPoints.decoder referring.sequenceSet.sizeInTreeBlocks)
  let extensionData ← whenElse pictureSet.headerExtensionPresent [] extensionDecoder
  paddingDecoder
  let stop ← position
  return {
    unit
    start := referring.start
    fields, entryPoints, extensionData
    sizeInBits := stop - origin }

/-- The grammar of a unit, up to the slice data. -/
def decoder (sequences : IdTable SequenceParameterSet) (pictures : IdTable PictureParameterSet) :
    Decoder SliceHeader := do
  let unit ← SegmentStart.unitDecoder
  located structureName (fieldsDecoder sequences pictures unit)

end SliceHeader

/-- Decodes the slice segment header of a unit. -/
def SliceSegment.ofUnit (sequences : IdTable SequenceParameterSet)
    (pictures : IdTable PictureParameterSet) : List UInt8 → Except Error SliceSegment :=
  Staged.onUnit do
    let header ← Staged.decode (SliceHeader.decoder sequences pictures)
    return { header, dataOffset := ← Staged.bytesRead }

/-! ## Derived values -/

namespace SliceHeader

/-- The slice refers to no other picture; a dependent segment does not say. -/
def isIntra (header : SliceHeader) : Bool :=
  header.start.sliceType.any (·.isIntra)

/-- The short-term set in effect, with the sequence parameter set that the header refers to. -/
def shortTermSet? (header : SliceHeader) (sequenceSet : SequenceParameterSet) :
    Option ShortTermSet :=
  header.fields.kept.shortTerm.set? sequenceSet.shortTermSets

/-- The distances between entry points in bytes. -/
def entryPointOffsets (header : SliceHeader) : List Nat :=
  header.entryPoints.offsetsMinus1.map (· + 1)

/-- The greatest number of candidates from which motion is merged. -/
def maxMergeCandidates (header : SliceHeader) : Nat :=
  5 - header.fields.inter.fiveMinusMergeCandidates

/-- The quantiser of the slice, with the picture parameter set that it names. -/
def qp (header : SliceHeader) (pictureSet : PictureParameterSet) : Int :=
  saturateSigned (pictureSet.initialQp + header.fields.qpDelta)

end SliceHeader

end CodedVideo.Hevc
