import CodedVideo.Decoder.Basic

/-!
# VVC profiles, tiers and levels

A profile names a set of coding tools, a level bounds the work of a decoder, and a tier chooses
between two bounds on the bit rate at one level. Constraints may narrow a profile further. Temporal
sub-layers may state levels of their own; one that states none has that of the next higher
sub-layer.
-/

namespace CodedVideo.Vvc

/-! ## Profiles -/

/-- A named set of coding tools. -/
inductive Profile where
  | main10
  | main10With444
  | main10StillPicture
  | main10With444StillPicture
  | multilayerMain10
  | multilayerMain10With444
  | main12
  | main12Intra
  | main12With444
  | main12With444Intra
  | main16With444
  | main16With444Intra
deriving DecidableEq, Repr

namespace Profile

/-- The number that stands for a profile. -/
def idc : Profile → Nat
  | main10 => 1
  | main12 => 2
  | main12Intra => 10
  | multilayerMain10 => 17
  | main10With444 => 33
  | main12With444 => 34
  | main16With444 => 36
  | main12With444Intra => 42
  | main16With444Intra => 44
  | multilayerMain10With444 => 49
  | main10StillPicture => 65
  | main10With444StillPicture => 97

/-- The profile that a number stands for. -/
def ofIdc? : Nat → Option Profile
  | 1 => some main10
  | 2 => some main12
  | 10 => some main12Intra
  | 17 => some multilayerMain10
  | 33 => some main10With444
  | 34 => some main12With444
  | 36 => some main16With444
  | 42 => some main12With444Intra
  | 44 => some main16With444Intra
  | 49 => some multilayerMain10With444
  | 65 => some main10StillPicture
  | 97 => some main10With444StillPicture
  | _ => none

/-- Chroma samples may be as many as luma samples. -/
def allows444 (profile : Profile) : Bool :=
  profile.idc.testBit 5

/-- The stream is a single picture. -/
def isStillPicture (profile : Profile) : Bool :=
  profile.idc.testBit 6

/-- The stream may have several layers. -/
def isMultilayer : Profile → Bool
  | multilayerMain10 | multilayerMain10With444 => true
  | _ => false

end Profile

/-! ## Tiers -/

/-- One of two bounds on the bit rate at a level. -/
inductive Tier where
  | main
  | high
deriving DecidableEq, Repr

namespace Tier

/-- The tier that a flag stands for. -/
def ofFlag (flag : Bool) : Tier :=
  if flag then high else main

/-- The name of a tier. -/
def name : Tier → String
  | main => "Main"
  | high => "High"

end Tier

/-! ## Levels -/

/-- A bound on the work of a decoder: sixteen times the number in front of the point and three
times the number behind it. -/
structure Level where
  idc : Nat
deriving DecidableEq, Repr

namespace Level

/-- Level 4.1. -/
def level4_1 : Level := ⟨67⟩

/-- Level 5.1. -/
def level5_1 : Level := ⟨83⟩

/-- Level 15.5, at which there are no bounds. -/
def level15_5 : Level := ⟨255⟩

/-- The number in front of the point. -/
def major (level : Level) : Nat :=
  level.idc / 16

/-- The number behind the point. -/
def minor (level : Level) : Nat :=
  level.idc % 16 / 3

/-- The name of a level. -/
def name (level : Level) : String :=
  let major := level.major
  let minor := level.minor
  s!"{major}.{minor}"

/-- The greatest number of luma samples in a picture, for a level that is known. -/
def maxPictureSize? (level : Level) : Option Nat :=
  match level.idc with
  | 16 => some 36864
  | 32 => some 122880
  | 35 => some 245760
  | 48 => some 552960
  | 51 => some 983040
  | 64 | 67 => some 2228224
  | 80 | 83 | 86 => some 8912896
  | 96 | 99 | 102 => some 35651584
  | _ => none

end Level

/-! ## Coded profiles, tiers and levels -/

/-- What the data promises beyond its profile. -/
structure GeneralConstraints where
  intraOnly : Bool
  layersIndependent : Bool
  oneAccessUnit : Bool
  sixteenMinusMaxDepth : Nat
  threeMinusMaxChroma : Nat
  /-- Sixty-two further flags, the first one in the most significant bit. -/
  flags : Nat
  /-- Reserved flags. -/
  additional : List Bool
deriving DecidableEq, Repr

/-- A coded profile and tier. -/
structure ProfileTier where
  profileIdc : Nat
  tierFlag : Bool
  constraints : Option GeneralConstraints
  subProfiles : List Nat
deriving DecidableEq, Repr

/-- What a temporal sub-layer below the highest has for its level. -/
structure SubLayerLevel where
  /-- The level is coded, not that of the next higher sub-layer. -/
  isCoded : Bool
  levelIdc : Nat
deriving DecidableEq, Repr

/-- A profile, tier and level, and the levels of the sub-layers below the highest. -/
structure ProfileTierLevel where
  /-- The profile and tier, where they are coded. -/
  profileTier : Option ProfileTier
  levelIdc : Nat
  framesOnly : Bool
  multilayerEnabled : Bool
  /-- From the lowest sub-layer to the highest. -/
  subLayers : List SubLayerLevel
deriving DecidableEq, Repr

/-! ## Grammar -/

open Decoder

/-- The grammar of the constraints. -/
def GeneralConstraints.decoder : Decoder GeneralConstraints := do
  let intraOnly ← flag
  let layersIndependent ← flag
  let oneAccessUnit ← flag
  let sixteenMinusMaxDepth ← bits 4
  let threeMinusMaxChroma ← bits 2
  let flags ← wideBits 62
  let additional ← replicate (← bits 8) flag
  return {
    intraOnly, layersIndependent, oneAccessUnit, sixteenMinusMaxDepth, threeMinusMaxChroma, flags,
    additional }

namespace ProfileTierLevel

/-- The name under which errors report the structure. -/
def structureName : String := "profile_tier_level"

/-- The constraints, which end at a byte boundary whether they are there or not. -/
def constraintsDecoder : Decoder (Option GeneralConstraints) := do
  let constraints ← optional (← flag) GeneralConstraints.decoder
  align
  return constraints

/-- The levels of sub-layers, from the highest to the lowest: behind each flag that says that a
level is coded, one that is not is the level of the sub-layer above, the first of which is
`higher`. The levels decoded before stand in front, the lowest first. -/
def subLayersBelow (higher : Nat) :
    List Bool → List SubLayerLevel → Decoder (List SubLayerLevel)
  | [], levels => done levels
  | isCoded :: rest, levels => do
      let levelIdc ← whenElse isCoded higher (bits 8)
      subLayersBelow levelIdc rest ({ isCoded, levelIdc } :: levels)

/-- The fields. What belongs to the profile is coded in three places. -/
def fields (profilePresent : Bool) (maxSubLayersMinus1 : Nat) : Decoder ProfileTierLevel := do
  let profileIdc ← whenElse profilePresent 0 (bits 7)
  let tierFlag ← whenElse profilePresent false flag
  let levelIdc ← bits 8
  let framesOnly ← flag
  let multilayerEnabled ← flag
  let constraints ← whenElse profilePresent none constraintsDecoder
  let present ← replicate maxSubLayersMinus1 flag
  align
  let subLayers ← subLayersBelow levelIdc present []
  let subProfiles ← whenElse profilePresent [] (do replicate (← bits 8) (bits 32))
  return {
    profileTier := if profilePresent then some { profileIdc, tierFlag, constraints, subProfiles }
      else none
    levelIdc, framesOnly, multilayerEnabled, subLayers }

/-- The grammar for a sequence of up to `maxSubLayersMinus1 + 1` sub-layers. -/
def decoder (profilePresent : Bool) (maxSubLayersMinus1 : Nat) : Decoder ProfileTierLevel :=
  located structureName (fields profilePresent maxSubLayersMinus1)

/-! ## Derived values -/

/-- The number of the profile; zero where none is coded. -/
def profileIdc (level : ProfileTierLevel) : Nat :=
  (level.profileTier.map (·.profileIdc)).getD 0

/-- The profile, if it is a known one. -/
def profile? (level : ProfileTierLevel) : Option Profile :=
  Profile.ofIdc? level.profileIdc

/-- The flag for the high tier; unset where none is coded. -/
def tierFlag (level : ProfileTierLevel) : Bool :=
  (level.profileTier.map (·.tierFlag)).getD false

/-- The tier. -/
def tier (level : ProfileTierLevel) : Tier :=
  .ofFlag level.tierFlag

/-- The level. -/
def level (level : ProfileTierLevel) : Level :=
  { idc := level.levelIdc }

/-- The constraints, if they are coded. -/
def constraints? (level : ProfileTierLevel) : Option GeneralConstraints :=
  level.profileTier.bind (·.constraints)

end ProfileTierLevel

namespace GeneralConstraints

/-- The greatest number of bits in a sample. -/
def maxDepth (constraints : GeneralConstraints) : Nat :=
  16 - constraints.sixteenMinusMaxDepth

/-- The chroma format with the most samples. -/
def maxChroma (constraints : GeneralConstraints) : Nat :=
  3 - constraints.threeMinusMaxChroma

end GeneralConstraints

end CodedVideo.Vvc
