import CodedVideo.Avc.Level
import CodedVideo.Avc.NalUnit
import CodedVideo.Avc.ScalingList
import CodedVideo.Avc.VideoUsability
import CodedVideo.Decoder.Staged
import CodedVideo.Hexadecimal
import CodedVideo.Saturation
import CodedVideo.Window

/-!
# AVC sequence parameter sets

A sequence parameter set (SPS) holds for a whole coded video sequence: profile and level, the
format of the samples, how frames are numbered and ordered, and the size of the pictures.
-/

namespace CodedVideo.Avc

/-! ## Parts -/

/-- The format of the samples. -/
structure SampleFormat where
  /-- Monochrome, 4:2:0, 4:2:2 or 4:4:4. -/
  chroma : Nat
  /-- The three planes of 4:4:4 are coded like three monochrome pictures. -/
  separatePlanes : Bool
  lumaDepthMinus8 : Nat
  chromaDepthMinus8 : Nat
  losslessBypass : Bool
  scalingLists : Option (List ScalingList)
deriving DecidableEq, Repr

/-- The format where none is coded: 4:2:0 with eight bits. -/
def SampleFormat.standard : SampleFormat where
  chroma := 1
  separatePlanes := false
  lumaDepthMinus8 := 0
  chromaDepthMinus8 := 0
  losslessBypass := false
  scalingLists := none

/-- How the output order of pictures is coded. -/
inductive PictureOrder where
  /-- Each slice codes the low bits of its picture order count. -/
  | lowBits (log2MaxMinus4 : Nat)
  /-- Slices code deviations from an expected cycle of counts. -/
  | cycle (alwaysZero : Bool) (nonReferenceOffset topToBottomOffset : Int)
      (referenceOffsets : List Int)
  /-- Nothing is coded; the kind is 2 in every stream that is well formed. -/
  | decodingOrder (kind : Nat)
deriving DecidableEq, Repr

/-- A sequence parameter set. -/
structure SequenceParameterSet where
  profileIdc : Nat
  /-- Eight flags, the first one in the most significant bit. -/
  constraintFlags : Nat
  levelIdc : Nat
  id : Nat
  format : SampleFormat
  log2MaxFrameNumMinus4 : Nat
  pictureOrder : PictureOrder
  maxReferenceFrames : Nat
  frameNumGapsAllowed : Bool
  widthInMacroblocksMinus1 : Nat
  heightInMapUnitsMinus1 : Nat
  /-- There are no fields. -/
  framesOnly : Bool
  /-- Frames and fields may alternate within a picture. -/
  adaptiveFrameField : Bool
  direct8x8Inference : Bool
  /-- The margins that are not shown, in crop units. -/
  cropping : Option Window
  usability : Option VideoUsability
  /-- The stored bytes up to and with the flag in front of the usability information. -/
  bytesBeforeUsability : Nat
  /-- The stored bytes up to and with the usability information. -/
  bytesRead : Nat
deriving DecidableEq, Repr

/-! ## Grammar -/

open Decoder

namespace SampleFormat

/-- The profiles whose parameter sets code the format of the samples. -/
def codingProfiles : List Nat :=
  [100, 110, 122, 244, 44, 83, 86, 118, 128, 138, 139, 134, 135]

/-- The number of scaling lists in a sequence parameter set. -/
def scalingListCount (chroma : Nat) : Nat :=
  if chroma = 3 then 12 else 8

/-- The grammar of the format. -/
def decoder : Decoder SampleFormat := do
  let chroma ← boundedUnsigned "SPS" "chroma_format_idc" 3
  let separatePlanes ← whenElse (chroma == 3) false flag
  let lumaDepthMinus8 ← unsigned
  let chromaDepthMinus8 ← unsigned
  let losslessBypass ← flag
  let scalingLists ← optional (← flag) (ScalingList.slots (scalingListCount chroma))
  return {
    chroma, separatePlanes, lumaDepthMinus8, chromaDepthMinus8, losslessBypass, scalingLists }

end SampleFormat

/-- The grammar of the picture order: its kind, and what the kind asks for. -/
def PictureOrder.decoder : Decoder PictureOrder := do
  let kind ← unsigned
  match kind with
  | 0 => return lowBits (← unsigned)
  | 1 =>
      let alwaysZero ← flag
      let nonReferenceOffset ← signed
      let topToBottomOffset ← signed
      let referenceOffsets ← replicate (← unsigned) signed
      return cycle alwaysZero nonReferenceOffset topToBottomOffset referenceOffsets
  | kind => return decodingOrder kind

namespace SequenceParameterSet

/-- The name under which errors report the structure. -/
def structureName : String := "SPS"

/-- The header of the unit, which must name a sequence parameter set. -/
def unitHeader : Decoder Unit := do
  let header ← locatedAt structureName 0 NalHeader.decoder
  require (header.unitType == .sps) (.wrongUnitType structureName header.unitType.code)

/-- The fields in front of the usability information, and whether that is there. -/
def fields : Decoder (SequenceParameterSet × Bool) := do
  let profileIdc ← bits 8
  let constraintFlags ← bits 8
  let levelIdc ← bits 8
  let id ← unsigned
  let format ← whenElse (SampleFormat.codingProfiles.contains profileIdc) .standard
    SampleFormat.decoder
  let log2MaxFrameNumMinus4 ← unsigned
  let pictureOrder ← PictureOrder.decoder
  let maxReferenceFrames ← unsigned
  let frameNumGapsAllowed ← flag
  let widthInMacroblocksMinus1 ← unsigned
  let heightInMapUnitsMinus1 ← unsigned
  let framesOnly ← flag
  let adaptiveFrameField ← whenElse (!framesOnly) false flag
  let direct8x8Inference ← flag
  let cropping ← optional (← flag) Window.decoder
  let usabilityPresent ← flag
  return ({
    profileIdc, constraintFlags, levelIdc, id, format, log2MaxFrameNumMinus4, pictureOrder,
    maxReferenceFrames, frameNumGapsAllowed, widthInMacroblocksMinus1, heightInMapUnitsMinus1,
    framesOnly, adaptiveFrameField, direct8x8Inference, cropping
    usability := none
    bytesBeforeUsability := 0
    bytesRead := 0 }, usabilityPresent)

/-- The stages in which a unit is decoded. -/
def stages : Staged SequenceParameterSet := do
  Staged.decode unitHeader
  let (set, usabilityPresent) ← Staged.decode (located structureName fields)
  let bytesBeforeUsability ← Staged.bytesRead
  let usability ← Staged.decode
    (located structureName (optional usabilityPresent VideoUsability.decoder))
  let bytesRead ← Staged.bytesRead
  Staged.decode (located structureName trailingBits)
  return { set with usability, bytesBeforeUsability, bytesRead }

/-- Decodes a sequence parameter set from its unit. -/
def ofUnit (unit : List UInt8) : Except Error SequenceParameterSet :=
  stages.onUnit unit

/-! ## Derived values -/

/-- The profile, if it is a known one. -/
def profile? (set : SequenceParameterSet) : Option Profile :=
  Profile.ofIdc? set.profileIdc

/-- The level. -/
def level (set : SequenceParameterSet) : Level :=
  { idc := set.levelIdc }

/-- The constraint flag with a given number; there are none from 8 on. -/
def constraintFlag (set : SequenceParameterSet) (number : Nat) : Bool :=
  decide (number < 8) && set.constraintFlags.testBit (7 - number)

/-- The format of the chroma samples that are coded with the luma samples; zero if none are. -/
def codedChroma (set : SequenceParameterSet) : Nat :=
  if set.format.separatePlanes then 0 else set.format.chroma

/-- The width of a chroma sample in luma samples. -/
def chromaWidthRatio (set : SequenceParameterSet) : Nat :=
  if set.format.chroma = 1 ∨ set.format.chroma = 2 then 2 else 1

/-- The height of a chroma sample in luma samples. -/
def chromaHeightRatio (set : SequenceParameterSet) : Nat :=
  if set.format.chroma = 1 then 2 else 1

/-- The number of fields or frames in a frame: one map unit is as high as so many macroblocks. -/
def mapUnitHeight (set : SequenceParameterSet) : Nat :=
  if set.framesOnly then 1 else 2

/-- The luma samples in a horizontal crop unit. -/
def cropUnitWidth (set : SequenceParameterSet) : Nat :=
  if set.codedChroma = 0 then 1 else set.chromaWidthRatio

/-- The luma samples in a vertical crop unit. -/
def cropUnitHeight (set : SequenceParameterSet) : Nat :=
  if set.codedChroma = 0 then set.mapUnitHeight else set.chromaHeightRatio * set.mapUnitHeight

/-- The width of a picture in macroblocks. -/
def widthInMacroblocks (set : SequenceParameterSet) : Nat :=
  saturate (set.widthInMacroblocksMinus1 + 1)

/-- The height of a picture in map units. -/
def heightInMapUnits (set : SequenceParameterSet) : Nat :=
  saturate (set.heightInMapUnitsMinus1 + 1)

/-- The height of a frame in macroblocks. -/
def frameHeightInMacroblocks (set : SequenceParameterSet) : Nat :=
  saturate (set.heightInMapUnits * set.mapUnitHeight)

/-- The number of map units in a picture. -/
def pictureSizeInMapUnits (set : SequenceParameterSet) : Nat :=
  saturate (set.widthInMacroblocks * set.heightInMapUnits)

/-- The width of the shown picture in luma samples. -/
def width (set : SequenceParameterSet) : Nat :=
  let coded := saturate (set.widthInMacroblocks * 16)
  match set.cropping with
  | none => coded
  | some margins => crop coded set.cropUnitWidth margins.left margins.right

/-- The height of the shown picture in luma samples. -/
def height (set : SequenceParameterSet) : Nat :=
  let coded := saturate (set.frameHeightInMacroblocks * 16)
  match set.cropping with
  | none => coded
  | some margins => crop coded set.cropUnitHeight margins.top margins.bottom

/-- The number of bits in a luma sample. -/
def lumaDepth (set : SequenceParameterSet) : Nat :=
  saturate (set.format.lumaDepthMinus8 + 8)

/-- The number of bits in a chroma sample. -/
def chromaDepth (set : SequenceParameterSet) : Nat :=
  saturate (set.format.chromaDepthMinus8 + 8)

/-- The width of a frame number in bits. -/
def log2MaxFrameNum (set : SequenceParameterSet) : Nat :=
  saturate (set.log2MaxFrameNumMinus4 + 4)

/-- The width in bits of the low bits of a picture order count; four where none are coded. -/
def log2MaxPictureOrder (set : SequenceParameterSet) : Nat :=
  match set.pictureOrder with
  | .lowBits log2MaxMinus4 => saturate (log2MaxMinus4 + 4)
  | _ => 4

/-- The number of frame numbers, if it fits 32 bits. -/
def maxFrameNum? (set : SequenceParameterSet) : Option Nat :=
  if set.log2MaxFrameNum < 32 then some (1 <<< set.log2MaxFrameNum) else none

/-- The sample aspect ratio, if it is coded and its width is not zero. -/
def aspectRatio? (set : SequenceParameterSet) : Option AspectRatio :=
  set.usability.bind (·.signal.aspectRatio?)

/-- A number of frames and the number of seconds they take, if they are coded. -/
def frameRate? (set : SequenceParameterSet) : Option (Nat × Nat) :=
  set.usability.bind VideoUsability.frameRate?

/-- The number of decoded frames that are kept, at least one and at most sixteen. -/
def maxStoredFrames (set : SequenceParameterSet) : Nat :=
  let frameSize := saturate (set.widthInMacroblocks * set.frameHeightInMacroblocks)
  if frameSize = 0 then 1 else max 1 (min (set.level.maxStoredMacroblocks / frameSize) 16)

/-! ## Codec string -/

/-- The name of the codec with its profile and level, as media types carry it. -/
def codecString (set : SequenceParameterSet) : String :=
  "avc1." ++ Hexadecimal.lowerByte set.profileIdc ++
    Hexadecimal.lowerByte set.constraintFlags ++ Hexadecimal.lowerByte set.levelIdc

end SequenceParameterSet

end CodedVideo.Avc
