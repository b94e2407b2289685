import CodedVideo.ByteDifference
import CodedVideo.Decoder.Basic

/-!
# AVC scaling lists

The weights of a scaling list are coded as differences modulo 256. A difference that leads to
weight zero ends the list: the weights behind it repeat the last one, and if it is the first
difference the default list is meant.
-/

namespace CodedVideo.Avc

/-- A slot for a scaling list. -/
inductive ScalingList where
  /-- Nothing is coded; the fall-back rule applies. -/
  | notPresent
  /-- The default list is meant. -/
  | useDefault
  /-- The weights, in scan order. -/
  | explicit (weights : List Nat)
deriving DecidableEq, Repr

namespace ScalingList

open Decoder

/-- The last `remaining` weights behind the given ones, which are reversed and end in `last`. -/
def weightsAfter : Nat → Nat → List Nat → Decoder (List Nat)
  | 0, _, weights => done weights.reverse
  | remaining + 1, last, weights => do
      let next := ByteDifference.next last (← signed)
      if next = 0 then return weights.reverse ++ List.replicate (remaining + 1) last
      else weightsAfter remaining next (next :: weights)

/-- A coded list of `size` weights; the first difference is taken from weight 8. -/
def coded (size : Nat) : Decoder ScalingList := do
  let first := ByteDifference.next 8 (← signed)
  if first = 0 then return useDefault
  else return explicit (← weightsAfter (size - 1) first [first])

/-- The number of weights in a slot: the first six lists are for blocks of four by four samples,
the others for blocks of eight by eight. -/
def sizeOfSlot (slot : Nat) : Nat :=
  if slot < 6 then 16 else 64

/-- The slot with a given number: a flag, and behind it the list if it is coded. -/
def decoder (slot : Nat) : Decoder ScalingList := do
  if ← flag then coded (sizeOfSlot slot) else return notPresent

/-- The first `count` slots. -/
def slots (count : Nat) : Decoder (List ScalingList) :=
  times count decoder

end ScalingList

end CodedVideo.Avc
