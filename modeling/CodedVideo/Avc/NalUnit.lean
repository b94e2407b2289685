import CodedVideo.Decoder.Basic
import CodedVideo.NalUnit.Sample

/-!
# AVC NAL units

An AVC NAL unit opens with a header of one byte: a forbidden bit, the reference indication in two
bits and the type of the unit in five.
-/

namespace CodedVideo.Avc

/-! ## Types of units -/

/-- What a NAL unit holds. -/
inductive NalUnitType where
  | unspecified
  | slice
  | sliceDataA
  | sliceDataB
  | sliceDataC
  | idrSlice
  | sei
  | sps
  | pps
  | accessUnitDelimiter
  | endOfSequence
  | endOfStream
  | filler
  | spsExtension
  | prefixUnit
  | subsetSps
  | depthParameterSet
  | auxiliarySlice
  | sliceExtension
  | depthSliceExtension
  | unknown (code : Nat)
deriving DecidableEq, Repr

namespace NalUnitType

/-- The type with a given code. -/
def ofCode : Nat → NalUnitType
  | 0 => unspecified
  | 1 => slice
  | 2 => sliceDataA
  | 3 => sliceDataB
  | 4 => sliceDataC
  | 5 => idrSlice
  | 6 => sei
  | 7 => sps
  | 8 => pps
  | 9 => accessUnitDelimiter
  | 10 => endOfSequence
  | 11 => endOfStream
  | 12 => filler
  | 13 => spsExtension
  | 14 => prefixUnit
  | 15 => subsetSps
  | 16 => depthParameterSet
  | 19 => auxiliarySlice
  | 20 => sliceExtension
  | 21 => depthSliceExtension
  | code => unknown code

/-- The code of a type. -/
def code : NalUnitType → Nat
  | unspecified => 0
  | slice => 1
  | sliceDataA => 2
  | sliceDataB => 3
  | sliceDataC => 4
  | idrSlice => 5
  | sei => 6
  | sps => 7
  | pps => 8
  | accessUnitDelimiter => 9
  | endOfSequence => 10
  | endOfStream => 11
  | filler => 12
  | spsExtension => 13
  | prefixUnit => 14
  | subsetSps => 15
  | depthParameterSet => 16
  | auxiliarySlice => 19
  | sliceExtension => 20
  | depthSliceExtension => 21
  | unknown code => code

/-- The name of a type. -/
def name : NalUnitType → String
  | unspecified => "Unspecified"
  | slice => "Slice"
  | sliceDataA => "SliceDataA"
  | sliceDataB => "SliceDataB"
  | sliceDataC => "SliceDataC"
  | idrSlice => "IdrSlice"
  | sei => "Sei"
  | sps => "Sps"
  | pps => "Pps"
  | accessUnitDelimiter => "Aud"
  | endOfSequence => "EndOfSequence"
  | endOfStream => "EndOfStream"
  | filler => "Filler"
  | spsExtension => "SpsExt"
  | prefixUnit => "Prefix"
  | subsetSps => "SubsetSps"
  | depthParameterSet => "Dps"
  | auxiliarySlice => "SliceAux"
  | sliceExtension => "SliceExt"
  | depthSliceExtension => "SliceExtDepth"
  | unknown code => s!"Unknown({code})"

/-- The unit holds coded picture data. -/
def isVcl : NalUnitType → Bool
  | slice | sliceDataA | sliceDataB | sliceDataC | idrSlice => true
  | auxiliarySlice | sliceExtension | depthSliceExtension => true
  | _ => false

/-- The unit opens with a slice header. -/
def hasSliceHeader : NalUnitType → Bool
  | slice | sliceDataA | idrSlice => true
  | _ => false

/-- The unit is a slice of an instantaneous decoding refresh picture. -/
def isIdr : NalUnitType → Bool
  | idrSlice => true
  | _ => false

/-- The unit is a sequence or picture parameter set. -/
def isParameterSet : NalUnitType → Bool
  | sps | pps => true
  | _ => false

/-- The type that a header byte names. -/
def ofHeaderByte (byte : UInt8) : NalUnitType :=
  ofCode (byte.toNat % 32)

/-- The type of a unit; an empty one has none. -/
def ofUnit? (unit : List UInt8) : Option NalUnitType :=
  unit.head?.map ofHeaderByte

end NalUnitType

/-! ## The header -/

/-- The header of a NAL unit. -/
structure NalHeader where
  /-- How far other pictures refer to this unit; zero if none does. -/
  refIdc : Nat
  unitType : NalUnitType
deriving DecidableEq, Repr

namespace NalHeader

/-- The grammar of the header. The forbidden bit is read and ignored. -/
def decoder : Decoder NalHeader := do
  let _ ← Decoder.bits 1
  let refIdc ← Decoder.bits 2
  let code ← Decoder.bits 5
  return { refIdc, unitType := .ofCode code }

/-- The header that a byte holds. -/
def ofByte (byte : UInt8) : NalHeader :=
  { refIdc := byte.toNat / 32 % 4, unitType := .ofHeaderByte byte }

/-- The byte that holds a header; the forbidden bit is zero. -/
def toByte (header : NalHeader) : UInt8 :=
  UInt8.ofNat (header.refIdc % 4 * 32 + header.unitType.code % 32)

/-- The header of a unit. -/
def ofUnit : List UInt8 → Except Error NalHeader
  | [] => .error (.malformed "NAL unit header" "empty NAL unit")
  | byte :: _ => .ok (ofByte byte)

end NalHeader

/-! ## Units in samples -/

namespace NalUnitType

/-- The types of the units in a sample, in order. -/
def inSample (sample : List UInt8) (lengthSize : Nat) : Except Error (List NalUnitType) :=
  (Sample.split sample lengthSize).map (·.filterMap ofUnit?)

/-- Whether a sample holds a unit of a given type. -/
def occursIn (wanted : NalUnitType) (sample : List UInt8) (lengthSize : Nat) :
    Except Error Bool :=
  (inSample sample lengthSize).map (·.contains wanted)

/-- The units of a given type in a sample. -/
def unitsInSample (wanted : NalUnitType) (sample : List UInt8) (lengthSize : Nat) :
    Except Error (List (List UInt8)) :=
  (Sample.split sample lengthSize).map (·.filter (ofUnit? · == some wanted))

end NalUnitType

end CodedVideo.Avc
