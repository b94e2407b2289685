import CodedVideo.Bits.Plain
import CodedVideo.CodedField
import CodedVideo.Decoder.Run

/-!
# VVC NAL units

A VVC NAL unit opens with a header of two bytes: a forbidden and a reserved bit, the layer in six
bits, the type of the unit in five and the temporal level, counted from one, in three.
-/

namespace CodedVideo.Vvc

/-! ## Types of units -/

/-- What a NAL unit holds. -/
inductive NalUnitType where
  | trail
  | stsa
  | radl
  | rasl
  | idrWithRadl
  | idrWithoutLeading
  | cra
  | gdr
  | operatingPoint
  | decodingCapability
  | vps
  | sps
  | pps
  | prefixAps
  | suffixAps
  | pictureHeader
  | accessUnitDelimiter
  | endOfSequence
  | endOfBitstream
  | prefixSei
  | suffixSei
  | filler
  | reserved (code : Nat)
  | unspecified (code : Nat)
deriving DecidableEq, Repr

namespace NalUnitType

/-- The type with a given code; all but the low five bits are ignored. -/
def ofCode (value : Nat) : NalUnitType :=
  match value % 32 with
  | 0 => trail
  | 1 => stsa
  | 2 => radl
  | 3 => rasl
  | 7 => idrWithRadl
  | 8 => idrWithoutLeading
  | 9 => cra
  | 10 => gdr
  | 12 => operatingPoint
  | 13 => decodingCapability
  | 14 => vps
  | 15 => sps
  | 16 => pps
  | 17 => prefixAps
  | 18 => suffixAps
  | 19 => pictureHeader
  | 20 => accessUnitDelimiter
  | 21 => endOfSequence
  | 22 => endOfBitstream
  | 23 => prefixSei
  | 24 => suffixSei
  | 25 => filler
  | code => if 28 ≤ code then unspecified code else reserved code

/-- The code of a type. -/
def code : NalUnitType → Nat
  | trail => 0
  | stsa => 1
  | radl => 2
  | rasl => 3
  | idrWithRadl => 7
  | idrWithoutLeading => 8
  | cra => 9
  | gdr => 10
  | operatingPoint => 12
  | decodingCapability => 13
  | vps => 14
  | sps => 15
  | pps => 16
  | prefixAps => 17
  | suffixAps => 18
  | pictureHeader => 19
  | accessUnitDelimiter => 20
  | endOfSequence => 21
  | endOfBitstream => 22
  | prefixSei => 23
  | suffixSei => 24
  | filler => 25
  | reserved code => code
  | unspecified code => code

/-- The name of a type. -/
def name : NalUnitType → String
  | trail => "TRAIL_NUT"
  | stsa => "STSA_NUT"
  | radl => "RADL_NUT"
  | rasl => "RASL_NUT"
  | idrWithRadl => "IDR_W_RADL"
  | idrWithoutLeading => "IDR_N_LP"
  | cra => "CRA_NUT"
  | gdr => "GDR_NUT"
  | operatingPoint => "OPI_NUT"
  | decodingCapability => "DCI_NUT"
  | vps => "VPS_NUT"
  | sps => "SPS_NUT"
  | pps => "PPS_NUT"
  | prefixAps => "PREFIX_APS_NUT"
  | suffixAps => "SUFFIX_APS_NUT"
  | pictureHeader => "PH_NUT"
  | accessUnitDelimiter => "AUD_NUT"
  | endOfSequence => "EOS_NUT"
  | endOfBitstream => "EOB_NUT"
  | prefixSei => "PREFIX_SEI_NUT"
  | suffixSei => "SUFFIX_SEI_NUT"
  | filler => "FD_NUT"
  | reserved code => s!"RESERVED({code})"
  | unspecified code => s!"UNSPECIFIED({code})"

/-- The unit holds coded picture data; the reserved codes among those are counted in. -/
def isVcl (unitType : NalUnitType) : Bool :=
  unitType.code ≤ 11

/-- Decoding can start at the picture; the reserved code 11 is counted in. -/
def isIrap (unitType : NalUnitType) : Bool :=
  7 ≤ unitType.code && unitType.code ≤ 11

/-- The picture is an instantaneous decoding refresh. -/
def isIdr : NalUnitType → Bool
  | idrWithRadl | idrWithoutLeading => true
  | _ => false

/-- The picture leads its random access picture in output order. -/
def isLeading : NalUnitType → Bool
  | radl | rasl => true
  | _ => false

/-- The unit is a video, sequence or picture parameter set. -/
def isParameterSet : NalUnitType → Bool
  | vps | sps | pps => true
  | _ => false

/-- The type of a unit; one of fewer than two bytes has none. -/
def ofUnit? (unit : List UInt8) : Option NalUnitType :=
  unit[1]?.map fun byte => ofCode (byte.toNat / 8)

end NalUnitType

/-! ## The header -/

/-- The header of a NAL unit. -/
structure NalHeader where
  layerId : Nat
  unitType : NalUnitType
  temporalIdPlus1 : Nat
deriving DecidableEq, Repr

namespace NalHeader

/-- The name under which errors report the header. -/
def structureName : String := "NAL unit header"

/-- The grammar of the header. Faults are reported at bits counted from the start of the header. -/
def decoder : Decoder NalHeader := do
  let forbidden ← Decoder.locatedAt structureName 0 Decoder.flag
  Decoder.require (!forbidden) (.malformed structureName "forbidden_zero_bit is set")
  let reserved ← Decoder.locatedAt structureName 1 Decoder.flag
  Decoder.require (!reserved) (.malformed structureName "nuh_reserved_zero_bit is set")
  let layerId ← Decoder.locatedAt structureName 2 (Decoder.bits 6)
  let code ← Decoder.locatedAt structureName 8 (Decoder.bits 5)
  let temporalIdPlus1 ← Decoder.locatedAt structureName 13 (Decoder.bits 3)
  Decoder.require (temporalIdPlus1 != 0)
    (.malformed structureName "nuh_temporal_id_plus1 is zero")
  return { layerId, unitType := .ofCode code, temporalIdPlus1 }

/-- The header in the first two bytes of a unit, as they are stored. -/
def ofUnit (unit : List UInt8) : Except Error NalHeader :=
  (decoder.run (PlainReader.ofBytes unit)).1

/-- The fields of the header. -/
def coding (header : NalHeader) : List CodedField :=
  [.flag false, .flag false, .bits header.layerId 6, .bits header.unitType.code 5,
    .bits header.temporalIdPlus1 3]

/-- Writes the header; each field keeps the low bits that fit it. -/
def write {σ : Type} [BitSink σ] (header : NalHeader) (sink : σ) : Except BitFault σ :=
  CodedField.writeAll header.coding sink

/-- The temporal level, counted from zero. -/
def temporalId (header : NalHeader) : Nat :=
  header.temporalIdPlus1 - 1

end NalHeader

end CodedVideo.Vvc
