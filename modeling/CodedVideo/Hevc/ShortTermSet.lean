import CodedVideo.Decoder.Basic

/-!
# HEVC short-term reference picture sets

A set lists the pictures near the current one that are kept for reference, by their distance in
output order. It is coded explicitly or predicted from another set, whose pictures are shifted; a
predicted set is resolved while decoding, so that it can serve to predict further ones.
-/

namespace CodedVideo.Hevc

/-! ## Sets -/

/-- A picture that is kept for reference. -/
structure ReferencePicture where
  /-- Its distance from the current picture in output order. -/
  delta : Int
  /-- The current picture itself may refer to it. -/
  used : Bool
deriving DecidableEq, Repr

/-- How a set was predicted. -/
structure SetPrediction where
  /-- How far back the set stands that it was predicted from, less one. -/
  distanceMinus1 : Nat
  /-- By how much the pictures of that set are shifted. -/
  shift : Int
deriving DecidableEq, Repr

/-- A short-term reference picture set. -/
structure ShortTermSet where
  prediction : Option SetPrediction
  /-- The pictures in front of the current one in output order, the closest first. -/
  before : List ReferencePicture
  /-- The pictures behind the current one in output order, the closest first. -/
  after : List ReferencePicture
deriving DecidableEq, Repr

namespace ShortTermSet

/-- The name under which errors report the structure. -/
def structureName : String := "st_ref_pic_set"

/-- The greatest number of pictures in a set. -/
def maxPictures : Nat := 16

/-- The greatest distance between pictures next to each other, less one. -/
def maxDistanceMinus1 : Nat := 32767

/-- The number of pictures in a set. -/
def size (set : ShortTermSet) : Nat :=
  set.before.length + set.after.length

/-- The number of pictures that the current picture itself may refer to. -/
def usedCount (set : ShortTermSet) : Nat :=
  set.before.countP (·.used) + set.after.countP (·.used)

/-! ## Explicit sets -/

open Decoder

/-- A distance, coded less one. -/
def distanceDecoder : Decoder Nat := do
  let minus1 ← unsigned
  require (minus1 ≤ maxDistanceMinus1)
    (.malformed structureName s!"POC delta {minus1} out of range")
  return minus1 + 1

/-- The next `count` pictures behind the one at `last`, each further away in the direction of
`sign`; given are those decoded before, reversed. -/
def picturesAfter (sign : Int) : Nat → Int → List ReferencePicture → Decoder (List ReferencePicture)
  | 0, _, pictures => done pictures.reverse
  | count + 1, last, pictures => do
      let delta := last + sign * (← distanceDecoder)
      let used ← flag
      picturesAfter sign count delta ({ delta, used } :: pictures)

/-- An explicit set: the numbers of pictures on both sides, and the pictures from the inside out. -/
def explicitDecoder : Decoder ShortTermSet := do
  let beforeCount ← unsigned
  let afterCount ← unsigned
  require (beforeCount + afterCount ≤ maxPictures)
    (.malformed structureName s!"{beforeCount} negative and {afterCount} positive pictures")
  let before ← picturesAfter (-1) beforeCount 0 []
  let after ← picturesAfter 1 afterCount 0 []
  return { prediction := none, before, after }

/-! ## Predicted sets -/

/-- A picture of a predicted set, if it is kept. -/
structure Candidate where
  delta : Int
  used : Bool
  kept : Bool
deriving DecidableEq, Repr

/-- The flags of a candidate: one that is used is also kept. -/
def candidateDecoder (delta : Int) : Decoder Candidate := do
  let used ← flag
  let kept ← whenElse (!used) true flag
  return { delta, used, kept }

/-- The candidates that are kept and lie on one side. -/
def keep (onSide : Int → Bool) (candidates : List Candidate) : List ReferencePicture :=
  (candidates.filter fun candidate => candidate.kept && onSide candidate.delta).map
    fun candidate => { delta := candidate.delta, used := candidate.used }

/-- The candidates in front of the current picture, the closest first; `own` is the picture of the
set that is predicted from. -/
def keepBefore (before after : List Candidate) (own : Candidate) : List ReferencePicture :=
  keep (· < 0) (after.reverse ++ own :: before)

/-- The candidates behind the current picture, the closest first. -/
def keepAfter (before after : List Candidate) (own : Candidate) : List ReferencePicture :=
  keep (0 < ·) (before.reverse ++ own :: after)

/-- The set that stands `distanceMinus1 + 1` places in front of a given one. -/
def source? (sets : List ShortTermSet) (index distanceMinus1 : Nat) : Option ShortTermSet :=
  if distanceMinus1 < index then sets[index - (distanceMinus1 + 1)]? else none

/-- The pictures of a predicted set: the flags of the candidates come in the order of the set that
is predicted from, and last those of its own picture. -/
def predictedFrom (source : ShortTermSet) (prediction : SetPrediction) : Decoder ShortTermSet := do
  let shifted := fun pictures : List ReferencePicture =>
    pictures.map fun picture => picture.delta + prediction.shift
  let before ← each (shifted source.before) candidateDecoder
  let after ← each (shifted source.after) candidateDecoder
  let own ← candidateDecoder prediction.shift
  let set : ShortTermSet := {
    prediction := some prediction
    before := keepBefore before after own
    after := keepAfter before after own }
  require (set.size ≤ maxPictures)
    (.malformed structureName "predicted set lists too many pictures")
  return set

/-- A predicted set. How far back the set stands that it is predicted from is coded only behind the
last set of a sequence; otherwise it is the set in front. -/
def predictedDecoder (sets : List ShortTermSet) (index total : Nat) : Decoder ShortTermSet := do
  let distanceMinus1 ← whenElse (index == total) 0 unsigned
  match source? sets index distanceMinus1 with
  | none => abort (.malformed structureName s!"delta_idx_minus1 {distanceMinus1} out of range")
  | some source =>
      let negative ← flag
      let distance ← distanceDecoder
      let shift : Int := if negative then -distance else distance
      predictedFrom source { distanceMinus1, shift }

/-! ## Grammar -/

/-- The fields of the set with a given index, behind `sets`, in a sequence of `total` sets. The
first set of a sequence cannot be predicted. -/
def fields (sets : List ShortTermSet) (index total : Nat) : Decoder ShortTermSet := do
  let predicted ← whenElse (index != 0) false flag
  if predicted then predictedDecoder sets index total else explicitDecoder

/-- The grammar of the set with a given index. A set of its own that a slice codes has the index
behind the last one of the sequence. -/
def decoder (sets : List ShortTermSet) (index total : Nat) : Decoder ShortTermSet :=
  located structureName (fields sets index total)

/-- The grammar of all sets of a sequence. -/
def sequenceDecoder (total : Nat) : Decoder (List ShortTermSet) :=
  foldFrom (fun index sets => do return sets ++ [← decoder sets index total]) total 0 []

end ShortTermSet

end CodedVideo.Hevc
