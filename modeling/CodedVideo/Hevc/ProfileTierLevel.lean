import CodedVideo.Decoder.Basic
import CodedVideo.Hexadecimal

/-!
# HEVC profiles, tiers and levels

A profile names a set of coding tools, a level bounds the work of a decoder, and a tier chooses
between two bounds on the bit rate at one level. Temporal sub-layers may state profiles and levels
of their own.
-/

namespace CodedVideo.Hevc

/-! ## Profiles -/

/-- A named set of coding tools. -/
inductive Profile where
  | main
  | main10
  | mainStillPicture
  | rangeExtensions
  | highThroughput
  | multiviewMain
  | scalableMain
  | threeDMain
  | screenContentCoding
  | scalableRangeExtensions
  | highThroughputScreenContent
deriving DecidableEq, Repr

namespace Profile

/-- The number that stands for a profile. -/
def idc : Profile → Nat
  | main => 1
  | main10 => 2
  | mainStillPicture => 3
  | rangeExtensions => 4
  | highThroughput => 5
  | multiviewMain => 6
  | scalableMain => 7
  | threeDMain => 8
  | screenContentCoding => 9
  | scalableRangeExtensions => 10
  | highThroughputScreenContent => 11

/-- The profile that a number stands for. -/
def ofIdc? : Nat → Option Profile
  | 1 => some main
  | 2 => some main10
  | 3 => some mainStillPicture
  | 4 => some rangeExtensions
  | 5 => some highThroughput
  | 6 => some multiviewMain
  | 7 => some scalableMain
  | 8 => some threeDMain
  | 9 => some screenContentCoding
  | 10 => some scalableRangeExtensions
  | 11 => some highThroughputScreenContent
  | _ => none

/-- The name of a profile. -/
def name : Profile → String
  | main => "Main"
  | main10 => "Main 10"
  | mainStillPicture => "Main Still Picture"
  | rangeExtensions => "Range Extensions"
  | highThroughput => "High Throughput"
  | multiviewMain => "Multiview Main"
  | scalableMain => "Scalable Main"
  | threeDMain => "3D Main"
  | screenContentCoding => "Screen Content Coding"
  | scalableRangeExtensions => "Scalable Range Extensions"
  | highThroughputScreenContent => "High Throughput Screen Content"

/-- The profile has samples of more than eight bits. -/
def allowsTenBits : Profile → Bool
  | main | mainStillPicture => false
  | _ => true

end Profile

/-! ## Tiers -/

/-- One of two bounds on the bit rate at a level. -/
inductive Tier where
  | main
  | high
deriving DecidableEq, Repr

namespace Tier

/-- The tier that a flag stands for. -/
def ofFlag (flag : Bool) : Tier :=
  if flag then high else main

/-- The name of a tier. -/
def name : Tier → String
  | main => "Main"
  | high => "High"

/-- The letter of a tier in codec strings. -/
def letter : Tier → String
  | main => "L"
  | high => "H"

end Tier

/-! ## Levels -/

/-- A bound on the work of a decoder: thirty times the number of the level. -/
structure Level where
  idc : Nat
deriving DecidableEq, Repr

namespace Level

/-- Level 3.1. -/
def level3_1 : Level := ⟨93⟩

/-- Level 4.1. -/
def level4_1 : Level := ⟨123⟩

/-- Level 5.1. -/
def level5_1 : Level := ⟨153⟩

/-- The number in front of the point. -/
def major (level : Level) : Nat :=
  level.idc / 30

/-- The number behind the point. -/
def minor (level : Level) : Nat :=
  level.idc % 30 / 3

/-- The name of a level. -/
def name (level : Level) : String :=
  let major := level.major
  let minor := level.minor
  s!"{major}.{minor}"

/-- The greatest number of luma samples in a picture, for a level that is known. -/
def maxPictureSize? (level : Level) : Option Nat :=
  match level.idc with
  | 30 => some 36864
  | 60 => some 122880
  | 63 => some 245760
  | 90 => some 552960
  | 93 => some 983040
  | 120 | 123 => some 2228224
  | 150 | 153 | 156 => some 8912896
  | 180 | 183 | 186 => some 35651584
  | _ => none

end Level

/-! ## Coded profiles, tiers and levels -/

/-- A profile as it is coded, in 88 bits. -/
structure ProfileBlock where
  space : Nat := 0
  tierFlag : Bool := false
  idc : Nat := 0
  /-- Thirty-two flags, the one for profile 0 in the most significant bit. -/
  compatibility : Nat := 0
  /-- Forty-eight flags, the first one in the most significant bit. -/
  constraints : Nat := 0
deriving DecidableEq, Repr

/-- What a temporal sub-layer states of its own. -/
structure SubLayerLevel where
  profile : Option ProfileBlock
  levelIdc : Option Nat
deriving DecidableEq, Repr

/-- A profile, tier and level, and those of the sub-layers below the highest. -/
structure ProfileTierLevel where
  /-- The profile, where it is coded. -/
  profileBlock : Option ProfileBlock
  levelIdc : Nat
  subLayers : List SubLayerLevel
deriving DecidableEq, Repr

namespace ProfileBlock

/-- The profile, if it is a known one. -/
def profile? (block : ProfileBlock) : Option Profile :=
  Profile.ofIdc? block.idc

/-- The tier. -/
def tier (block : ProfileBlock) : Tier :=
  .ofFlag block.tierFlag

/-- The data suits a decoder for the profile with a given number. -/
def isCompatibleWith (block : ProfileBlock) (idc : Nat) : Bool :=
  decide (idc < 32) && block.compatibility.testBit (31 - idc)

/-- The pictures were taken progressively. -/
def progressiveSource (block : ProfileBlock) : Bool :=
  block.constraints.testBit 47

/-- The pictures were taken interlaced. -/
def interlacedSource (block : ProfileBlock) : Bool :=
  block.constraints.testBit 46

/-- No frame packs several pictures. -/
def nonPacked (block : ProfileBlock) : Bool :=
  block.constraints.testBit 45

/-- There are no fields. -/
def framesOnly (block : ProfileBlock) : Bool :=
  block.constraints.testBit 44

end ProfileBlock

/-! ## Grammar -/

open Decoder

/-- The grammar of a coded profile. -/
def ProfileBlock.decoder : Decoder ProfileBlock := do
  let space ← bits 2
  let tierFlag ← flag
  let idc ← bits 5
  let compatibility ← bits 32
  let constraints ← wideBits 48
  return { space, tierFlag, idc, compatibility, constraints }

namespace ProfileTierLevel

/-- The name under which errors report the structure. -/
def structureName : String := "profile_tier_level"

/-- Two flags that say whether a sub-layer states a profile and a level. -/
def presenceFlags : Decoder (Bool × Bool) := do
  let profilePresent ← flag
  let levelPresent ← flag
  return (profilePresent, levelPresent)

/-- What a sub-layer states, given the two flags. -/
def subLayerDecoder (present : Bool × Bool) : Decoder SubLayerLevel := do
  let profile ← optional present.1 ProfileBlock.decoder
  let levelIdc ← optional present.2 (bits 8)
  return { profile, levelIdc }

/-- The fields. With sub-layers below the highest, the flags of up to eight sub-layers stand in
front of what they state; those of missing sub-layers are reserved. -/
def fields (profilePresent : Bool) (maxSubLayersMinus1 : Nat) : Decoder ProfileTierLevel := do
  let profileBlock ← optional profilePresent ProfileBlock.decoder
  let levelIdc ← bits 8
  let present ← replicate maxSubLayersMinus1 presenceFlags
  let _ ← whenElse (maxSubLayersMinus1 != 0) [] (replicate (8 - maxSubLayersMinus1) (bits 2))
  let subLayers ← each present subLayerDecoder
  return { profileBlock, levelIdc, subLayers }

/-- The grammar for a sequence of up to `maxSubLayersMinus1 + 1` sub-layers. -/
def decoder (profilePresent : Bool) (maxSubLayersMinus1 : Nat) : Decoder ProfileTierLevel :=
  located structureName (fields profilePresent maxSubLayersMinus1)

/-! ## Derived values -/

/-- The profile block; all zero where none is coded. -/
def block (level : ProfileTierLevel) : ProfileBlock :=
  level.profileBlock.getD {}

/-- The profile, if it is a known one. -/
def profile? (level : ProfileTierLevel) : Option Profile :=
  level.block.profile?

/-- The tier. -/
def tier (level : ProfileTierLevel) : Tier :=
  level.block.tier

/-- The level. -/
def level (level : ProfileTierLevel) : Level :=
  { idc := level.levelIdc }

/-! ## Codec string -/

/-- The letter of a profile space; space 0 has none. -/
def spaceLetter : Nat → String
  | 1 => "A"
  | 2 => "B"
  | 3 => "C"
  | _ => ""

/-- The six bytes of the constraint flags without the zero bytes at their end. -/
def constraintBytes (constraints : Nat) : List Nat :=
  let bytes := (List.range 6).map fun index => constraints >>> (8 * (5 - index)) % 256
  (bytes.reverse.dropWhile (· == 0)).reverse

/-- The name of the codec with its profile, tier and level, as media types carry it, for a given
sample entry. The compatibility flags are written as a number whose bit `n` is the flag for
profile `n`. -/
def codecString (level : ProfileTierLevel) (sampleEntry : String) : String :=
  let block := level.block
  let compatibility := Bits.toNat (Bits.ofNat 32 block.compatibility).reverse
  let constraints :=
    (constraintBytes block.constraints).map fun byte => "." ++ Hexadecimal.upper byte
  sampleEntry ++ "." ++ spaceLetter block.space ++ toString block.idc ++ "." ++
    Hexadecimal.upper compatibility ++ "." ++ block.tier.letter ++ toString level.levelIdc ++
    String.join constraints

end ProfileTierLevel

end CodedVideo.Hevc
