/-!
# AVC profiles and levels
-/

namespace CodedVideo.Avc

/-! ## Profiles -/

/-- A named set of coding tools. -/
inductive Profile where
  | baseline
  | main
  | extended
  | high
  | high10
  | high422
  | high444
  | cavlc444
  | scalableBaseline
  | scalableHigh
  | multiviewHigh
  | stereoHigh
deriving DecidableEq, Repr

namespace Profile

/-- The number that stands for a profile. -/
def idc : Profile → Nat
  | baseline => 66
  | main => 77
  | extended => 88
  | high => 100
  | high10 => 110
  | high422 => 122
  | high444 => 244
  | cavlc444 => 44
  | scalableBaseline => 83
  | scalableHigh => 86
  | multiviewHigh => 118
  | stereoHigh => 128

/-- The profile that a number stands for. -/
def ofIdc? : Nat → Option Profile
  | 66 => some baseline
  | 77 => some main
  | 88 => some extended
  | 100 => some high
  | 110 => some high10
  | 122 => some high422
  | 244 => some high444
  | 44 => some cavlc444
  | 83 => some scalableBaseline
  | 86 => some scalableHigh
  | 118 => some multiviewHigh
  | 128 => some stereoHigh
  | _ => none

/-- The profile has bidirectional slices. -/
def allowsBidirectional : Profile → Bool
  | baseline | scalableBaseline | cavlc444 => false
  | _ => true

/-- The profile has arithmetic coding. -/
def allowsArithmeticCoding : Profile → Bool
  | baseline | extended | scalableBaseline | cavlc444 => false
  | _ => true

end Profile

/-! ## Levels -/

/-- A bound on the work of a decoder: ten times the number of the level, or 9 for level 1b. -/
structure Level where
  idc : Nat
deriving DecidableEq, Repr

namespace Level

/-- The name of a level. -/
def name (level : Level) : String :=
  if level.idc = 9 then "1b"
  else
    let major := level.idc / 10
    let minor := level.idc % 10
    s!"{major}.{minor}"

/-- The greatest number of macroblocks in a second; unknown levels count as 4.0. -/
def maxMacroblocksPerSecond (level : Level) : Nat :=
  match level.idc with
  | 9 | 10 => 1485
  | 11 => 3000
  | 12 => 6000
  | 13 | 20 => 11880
  | 21 => 19800
  | 22 => 20250
  | 30 => 40500
  | 31 => 108000
  | 32 => 216000
  | 40 | 41 => 245760
  | 42 => 522240
  | 50 => 589824
  | 51 => 983040
  | 52 => 2073600
  | 60 | 61 => 4177920
  | 62 => 8355840
  | _ => 245760

/-- The greatest number of macroblocks in a frame; unknown levels count as 4.0. -/
def maxFrameSize (level : Level) : Nat :=
  match level.idc with
  | 9 | 10 => 99
  | 11 | 12 | 13 | 14 | 15 | 16 | 17 | 18 | 19 | 20 => 396
  | 21 => 792
  | 22 | 30 => 1620
  | 31 => 3600
  | 32 => 5120
  | 40 | 41 => 8192
  | 42 => 8704
  | 50 => 22080
  | 51 | 52 => 36864
  | 60 | 61 | 62 => 139264
  | _ => 8192

/-- The greatest number of macroblocks in the decoded pictures that are kept; unknown levels count
as 4.0. -/
def maxStoredMacroblocks (level : Level) : Nat :=
  match level.idc with
  | 9 | 10 => 396
  | 11 => 900
  | 12 | 13 | 20 => 2376
  | 21 => 4752
  | 22 | 30 => 8100
  | 31 => 18000
  | 32 => 20480
  | 40 | 41 => 32768
  | 42 => 34816
  | 50 => 110400
  | 51 | 52 => 184320
  | 60 | 61 | 62 => 696320
  | _ => 32768

end Level

end CodedVideo.Avc
