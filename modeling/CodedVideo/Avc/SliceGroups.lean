import CodedVideo.Decoder.Basic
import CodedVideo.Saturation

/-!
# AVC slice groups

The macroblocks of a picture can be dealt out to several slice groups. A map says which macroblock
belongs to which group; some maps change from picture to picture.
-/

namespace CodedVideo.Avc

/-- The corners of a rectangle, as numbers of map units in raster order. -/
structure GroupRectangle where
  topLeft : Nat
  bottomRight : Nat
deriving DecidableEq, Repr

/-- The order in which a changing map takes in map units. -/
inductive GroupGrowth where
  | boxOut
  | rasterScan
  | wipe
deriving DecidableEq, Repr

/-- Which map unit belongs to which slice group. -/
inductive SliceGroupMap where
  /-- Runs of map units go to the groups in turn. -/
  | interleaved (runLengthsMinus1 : List Nat)
  /-- Map units are scattered over the groups by a fixed rule. -/
  | dispersed
  /-- Each group but the last is a rectangle; the last one takes what is left over. -/
  | foreground (rectangles : List GroupRectangle)
  /-- A group that grows from picture to picture, and another that shrinks. -/
  | changing (growth : GroupGrowth) (reversed : Bool) (rateMinus1 : Nat)
  /-- The group of every single map unit. -/
  | explicit (groups : List Nat)
deriving DecidableEq, Repr

/-- Two or more slice groups. -/
structure SliceGroups where
  countMinus1 : Nat
  map : SliceGroupMap
deriving DecidableEq, Repr

open Decoder

/-- The grammar of a rectangle. -/
def GroupRectangle.decoder : Decoder GroupRectangle := do
  let topLeft ← unsigned
  let bottomRight ← unsigned
  return { topLeft, bottomRight }

/-- The code of the map that grows in a given order. -/
def GroupGrowth.code : GroupGrowth → Nat
  | boxOut => 3
  | rasterScan => 4
  | wipe => 5

namespace SliceGroupMap

/-- The code of the kind of a map. -/
def code : SliceGroupMap → Nat
  | interleaved _ => 0
  | dispersed => 1
  | foreground _ => 2
  | changing growth _ _ => growth.code
  | explicit _ => 6

/-- The number of map units by which a changing map changes at a time. -/
def changeRate? : SliceGroupMap → Option Nat
  | changing _ _ rateMinus1 => some (saturate (rateMinus1 + 1))
  | _ => none

/-- The grammar of a changing map behind its code. -/
def changingDecoder (growth : GroupGrowth) : Decoder SliceGroupMap := do
  let reversed ← flag
  let rateMinus1 ← unsigned
  return changing growth reversed rateMinus1

/-- The grammar of a map for `countMinus1 + 1` groups: the code of its kind, and what the kind asks
for. -/
def decoder (countMinus1 : Nat) : Decoder SliceGroupMap := do
  let code ← unsigned
  match code with
  | 0 => return interleaved (← replicate (countMinus1 + 1) unsigned)
  | 1 => return dispersed
  | 2 => return foreground (← replicate countMinus1 GroupRectangle.decoder)
  | 3 => changingDecoder .boxOut
  | 4 => changingDecoder .rasterScan
  | 5 => changingDecoder .wipe
  | 6 =>
      let sizeMinus1 ← unsigned
      let width := ceilLog2 (saturate (countMinus1 + 1))
      return explicit (← replicate (sizeMinus1 + 1) (bits width))
  | code => abort (.malformed "PPS" s!"slice_group_map_type {code} out of range")

end SliceGroupMap

/-- The grammar of slice groups: their number, and their map if there is more than one. -/
def SliceGroups.decoder : Decoder (Option SliceGroups) := do
  let countMinus1 ← unsigned
  if countMinus1 = 0 then return none
  else
    let map ← SliceGroupMap.decoder countMinus1
    return some { countMinus1, map }

end CodedVideo.Avc
