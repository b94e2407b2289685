import CodedVideo.Bits.Plain
import CodedVideo.CodedField
import CodedVideo.Decoder.Run

/-!
# HEVC NAL units

An HEVC NAL unit opens with a header of two bytes: a forbidden bit, the type of the unit in six
bits, the layer in six and the temporal level, counted from one, in three.
-/

namespace CodedVideo.Hevc

/-! ## Types of units -/

/-- What a NAL unit holds. A name that ends in `N` is not a reference within its sub-layer, one
that ends in `R` is. -/
inductive NalUnitType where
  | trailN
  | trailR
  | tsaN
  | tsaR
  | stsaN
  | stsaR
  | radlN
  | radlR
  | raslN
  | raslR
  | blaWithLeading
  | blaWithRadl
  | blaWithoutLeading
  | idrWithRadl
  | idrWithoutLeading
  | cra
  | vps
  | sps
  | pps
  | accessUnitDelimiter
  | endOfSequence
  | endOfBitstream
  | filler
  | prefixSei
  | suffixSei
  | reserved (code : Nat)
  | unspecified (code : Nat)
deriving DecidableEq, Repr

namespace NalUnitType

/-- The type with a given code. -/
def ofCode : Nat → NalUnitType
  | 0 => trailN
  | 1 => trailR
  | 2 => tsaN
  | 3 => tsaR
  | 4 => stsaN
  | 5 => stsaR
  | 6 => radlN
  | 7 => radlR
  | 8 => raslN
  | 9 => raslR
  | 16 => blaWithLeading
  | 17 => blaWithRadl
  | 18 => blaWithoutLeading
  | 19 => idrWithRadl
  | 20 => idrWithoutLeading
  | 21 => cra
  | 32 => vps
  | 33 => sps
  | 34 => pps
  | 35 => accessUnitDelimiter
  | 36 => endOfSequence
  | 37 => endOfBitstream
  | 38 => filler
  | 39 => prefixSei
  | 40 => suffixSei
  | code => if 48 ≤ code then unspecified code else reserved code

/-- The code of a type. -/
def code : NalUnitType → Nat
  | trailN => 0
  | trailR => 1
  | tsaN => 2
  | tsaR => 3
  | stsaN => 4
  | stsaR => 5
  | radlN => 6
  | radlR => 7
  | raslN => 8
  | raslR => 9
  | blaWithLeading => 16
  | blaWithRadl => 17
  | blaWithoutLeading => 18
  | idrWithRadl => 19
  | idrWithoutLeading => 20
  | cra => 21
  | vps => 32
  | sps => 33
  | pps => 34
  | accessUnitDelimiter => 35
  | endOfSequence => 36
  | endOfBitstream => 37
  | filler => 38
  | prefixSei => 39
  | suffixSei => 40
  | reserved code => code
  | unspecified code => code

/-- The name of a type. -/
def name : NalUnitType → String
  | trailN => "TRAIL_N"
  | trailR => "TRAIL_R"
  | tsaN => "TSA_N"
  | tsaR => "TSA_R"
  | stsaN => "STSA_N"
  | stsaR => "STSA_R"
  | radlN => "RADL_N"
  | radlR => "RADL_R"
  | raslN => "RASL_N"
  | raslR => "RASL_R"
  | blaWithLeading => "BLA_W_LP"
  | blaWithRadl => "BLA_W_RADL"
  | blaWithoutLeading => "BLA_N_LP"
  | idrWithRadl => "IDR_W_RADL"
  | idrWithoutLeading => "IDR_N_LP"
  | cra => "CRA_NUT"
  | vps => "VPS_NUT"
  | sps => "SPS_NUT"
  | pps => "PPS_NUT"
  | accessUnitDelimiter => "AUD_NUT"
  | endOfSequence => "EOS_NUT"
  | endOfBitstream => "EOB_NUT"
  | filler => "FD_NUT"
  | prefixSei => "PREFIX_SEI_NUT"
  | suffixSei => "SUFFIX_SEI_NUT"
  | reserved code => s!"RESERVED({code})"
  | unspecified code => s!"UNSPECIFIED({code})"

/-- The unit holds coded picture data. -/
def isVcl (unitType : NalUnitType) : Bool :=
  unitType.code < 32

/-- Decoding can start at the picture; the reserved codes 22 and 23 are counted in. -/
def isIrap (unitType : NalUnitType) : Bool :=
  16 ≤ unitType.code && unitType.code ≤ 23

/-- The picture is an instantaneous decoding refresh. -/
def isIdr : NalUnitType → Bool
  | idrWithRadl | idrWithoutLeading => true
  | _ => false

/-- The picture is a broken link access. -/
def isBla : NalUnitType → Bool
  | blaWithLeading | blaWithRadl | blaWithoutLeading => true
  | _ => false

/-- The picture is a clean random access. -/
def isCra : NalUnitType → Bool
  | cra => true
  | _ => false

/-- The picture leads its random access picture in output order. -/
def isLeading : NalUnitType → Bool
  | radlN | radlR | raslN | raslR => true
  | _ => false

/-- The picture trails its random access picture in output order. -/
def isTrailing : NalUnitType → Bool
  | trailN | trailR => true
  | _ => false

/-- The picture is a reference within its sub-layer: below 16 the odd codes are, and so is every
picture at which decoding can start. -/
def isReference (unitType : NalUnitType) : Bool :=
  unitType.isVcl && (unitType.code % 2 == 1 || unitType.isIrap)

/-- The unit is a video, sequence or picture parameter set. -/
def isParameterSet : NalUnitType → Bool
  | vps | sps | pps => true
  | _ => false

/-- The unit opens with a slice segment header. -/
def hasSliceHeader (unitType : NalUnitType) : Bool :=
  unitType.code ≤ 9 || (16 ≤ unitType.code && unitType.code ≤ 21)

/-- The type of a unit; an empty one has none. -/
def ofUnit? (unit : List UInt8) : Option NalUnitType :=
  unit.head?.map fun byte => ofCode (byte.toNat / 2 % 64)

end NalUnitType

/-! ## The header -/

/-- The header of a NAL unit. -/
structure NalHeader where
  unitType : NalUnitType
  layerId : Nat
  temporalIdPlus1 : Nat
deriving DecidableEq, Repr

namespace NalHeader

/-- The name under which errors report the header. -/
def structureName : String := "NAL unit header"

/-- The grammar of the header. Faults are reported at bits counted from the start of the header. -/
def decoder : Decoder NalHeader := do
  let forbidden ← Decoder.locatedAt structureName 0 Decoder.flag
  Decoder.require (!forbidden) (.malformed structureName "forbidden_zero_bit is set")
  let code ← Decoder.locatedAt structureName 1 (Decoder.bits 6)
  let layerId ← Decoder.locatedAt structureName 7 (Decoder.bits 6)
  let temporalIdPlus1 ← Decoder.locatedAt structureName 13 (Decoder.bits 3)
  Decoder.require (temporalIdPlus1 != 0)
    (.malformed structureName "nuh_temporal_id_plus1 is zero")
  return { unitType := .ofCode code, layerId, temporalIdPlus1 }

/-- The header in the first two bytes of a unit, as they are stored. -/
def ofUnit (unit : List UInt8) : Except Error NalHeader :=
  (decoder.run (PlainReader.ofBytes unit)).1

/-- The fields of the header. -/
def coding (header : NalHeader) : List CodedField :=
  [.flag false, .bits header.unitType.code 6, .bits header.layerId 6,
    .bits header.temporalIdPlus1 3]

/-- Writes the header; each field keeps the low bits that fit it. -/
def write {σ : Type} [BitSink σ] (header : NalHeader) (sink : σ) : Except BitFault σ :=
  CodedField.writeAll header.coding sink

/-- The temporal level, counted from zero. -/
def temporalId (header : NalHeader) : Nat :=
  header.temporalIdPlus1 - 1

end NalHeader

end CodedVideo.Hevc
