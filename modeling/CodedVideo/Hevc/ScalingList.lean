import CodedVideo.ByteDifference
import CodedVideo.Decoder.Basic

/-!
# HEVC scaling lists

Twenty scaling lists are coded, one for each transform size and kind of block. A list is either
explicit or the copy of one that was coded before it; copies are resolved while decoding.
-/

namespace CodedVideo.Hevc

/-- A scaling list with its place. -/
structure ScalingList where
  /-- The transform size: 4, 8, 16 or 32 samples. -/
  sizeId : Nat
  /-- The kind of block: the three planes of intra blocks, then those of inter blocks. -/
  matrixId : Nat
  /-- The list is coded itself, not copied. -/
  isExplicit : Bool
  /-- Sixteen coefficients for the least size, sixty-four for the others. -/
  coefficients : List Nat
  /-- The coefficient of the constant part, for the two greatest sizes. -/
  constantCoefficient : Option Nat
deriving DecidableEq, Repr

/-- The scaling lists of a parameter set, in coding order. -/
structure ScalingLists where
  lists : List ScalingList
deriving DecidableEq, Repr

namespace ScalingList

open Decoder

/-- The name under which errors report scaling lists. -/
def structureName : String := "scaling_list_data"

/-! ## Default lists -/

/-- The default coefficients of intra blocks. -/
def defaultIntra : List Nat :=
  [16, 16, 16, 16, 16, 16, 16, 16, 16, 16, 17, 16, 17, 16, 17, 18, 17, 18, 18, 17, 18, 21, 19, 20,
    21, 20, 19, 21, 24, 22, 22, 24, 24, 22, 22, 24, 25, 25, 27, 30, 27, 25, 25, 29, 31, 35, 35, 31,
    29, 36, 41, 44, 41, 36, 47, 54, 54, 47, 65, 70, 65, 88, 88, 115]

/-- The default coefficients of inter blocks. -/
def defaultInter : List Nat :=
  [16, 16, 16, 16, 16, 16, 16, 16, 16, 16, 17, 17, 17, 17, 17, 18, 18, 18, 18, 18, 18, 20, 20, 20,
    20, 20, 20, 20, 24, 24, 24, 24, 24, 24, 24, 24, 25, 25, 25, 25, 25, 25, 25, 28, 28, 28, 28, 28,
    28, 33, 33, 33, 33, 33, 41, 41, 41, 41, 54, 54, 54, 71, 71, 91]

/-- The default coefficients at a place. -/
def defaultCoefficients (sizeId matrixId : Nat) : List Nat :=
  if sizeId = 0 then List.replicate 16 16
  else if matrixId ≤ 2 then defaultIntra
  else defaultInter

/-- The coefficient of the constant part where none is coded. -/
def defaultConstant (sizeId : Nat) : Option Nat :=
  if 1 < sizeId then some 16 else none

/-! ## Places -/

/-- The distance between the kinds of block that have a list: the greatest size has lists for the
luma plane only. -/
def matrixStep (sizeId : Nat) : Nat :=
  if sizeId = 3 then 3 else 1

/-- The number of coefficients of a list. -/
def coefficientCount (sizeId : Nat) : Nat :=
  if sizeId = 0 then 16 else 64

/-- The places of the lists, in coding order. -/
def places : List (Nat × Nat) :=
  [(0, 0), (0, 1), (0, 2), (0, 3), (0, 4), (0, 5), (1, 0), (1, 1), (1, 2), (1, 3), (1, 4), (1, 5),
    (2, 0), (2, 1), (2, 2), (2, 3), (2, 4), (2, 5), (3, 0), (3, 3)]

/-! ## Explicit lists -/

/-- The coefficient of the constant part, coded less 8. -/
def constantDecoder : Decoder Nat := do
  let minus8 ← signed
  require (-7 ≤ minus8 && minus8 ≤ 247)
    (.malformed structureName s!"scaling_list_dc_coef_minus8 {minus8} out of range")
  return (minus8 + 8).toNat

/-- The difference between coefficients next to each other. -/
def differenceDecoder : Decoder Int := do
  let difference ← signed
  require (-128 ≤ difference && difference ≤ 127)
    (.malformed structureName s!"scaling_list_delta_coef {difference} out of range")
  return difference

/-- The last `remaining` coefficients behind the given ones, which are reversed and end in
`last`. -/
def coefficientsAfter : Nat → Nat → List Nat → Decoder (List Nat)
  | 0, _, coefficients => done coefficients.reverse
  | remaining + 1, last, coefficients => do
      let next := ByteDifference.next last (← differenceDecoder)
      coefficientsAfter remaining next (next :: coefficients)

/-- A list that is coded itself. The first difference is taken from the coefficient of the constant
part, or from 8 where there is none. -/
def explicitDecoder (sizeId matrixId : Nat) : Decoder ScalingList := do
  let constantCoefficient ← optional (1 < sizeId) constantDecoder
  let coefficients ← coefficientsAfter (coefficientCount sizeId) (constantCoefficient.getD 8) []
  return { sizeId, matrixId, isExplicit := true, coefficients, constantCoefficient }

/-! ## Copied lists -/

/-- The list at a place, among those decoded. -/
def find? (lists : List ScalingList) (sizeId matrixId : Nat) : Option ScalingList :=
  lists.find? fun list => list.sizeId == sizeId && list.matrixId == matrixId

/-- The place of the list that is copied, `distance` lists of the same size before a given one. -/
def copiedMatrix? (sizeId matrixId distance : Nat) : Option Nat :=
  let reach := distance * matrixStep sizeId
  if reach ≤ matrixId then some (matrixId - reach) else none

/-- A list copied from the one `distance` lists before it; distance zero stands for the default. -/
def copied (lists : List ScalingList) (sizeId matrixId distance : Nat) : Except Error ScalingList :=
  if distance = 0 then
    .ok {
      sizeId, matrixId
      isExplicit := false
      coefficients := defaultCoefficients sizeId matrixId
      constantCoefficient := defaultConstant sizeId }
  else
    match copiedMatrix? sizeId matrixId distance with
    | none =>
        .error (.malformed structureName
          s!"scaling_list_pred_matrix_id_delta {distance} out of range")
    | some source =>
        match find? lists sizeId source with
        | some list => .ok { list with matrixId, isExplicit := false }
        | none => .error (.malformed structureName "reference scaling list not coded")

/-- The list at a place, given those in front of it. -/
def decoder (lists : List ScalingList) (place : Nat × Nat) : Decoder ScalingList := do
  if ← flag then explicitDecoder place.1 place.2
  else ofExcept (copied lists place.1 place.2 (← unsigned))

end ScalingList

namespace ScalingLists

open Decoder

/-- The lists at the given places, behind those decoded. -/
def listsAfter (lists : List ScalingList) : List (Nat × Nat) → Decoder (List ScalingList)
  | [] => done lists
  | place :: places => do
      let list ← ScalingList.decoder lists place
      listsAfter (lists ++ [list]) places

/-- The grammar of all scaling lists. -/
def decoder : Decoder ScalingLists :=
  located ScalingList.structureName do
    return { lists := ← listsAfter [] ScalingList.places }

/-- The list at a place. -/
def get? (lists : ScalingLists) (sizeId matrixId : Nat) : Option ScalingList :=
  ScalingList.find? lists.lists sizeId matrixId

end ScalingLists

end CodedVideo.Hevc
