import CodedVideo.ExpGolomb
import CodedVideo.Hevc.SegmentStart
import CodedVideo.PredictionWeight

/-!
# The reference pictures of HEVC slices

A slice says which pictures are kept for reference: a short-term set, which it codes itself or
chooses from the sequence parameter set, and long-term pictures. A slice that refers to other
pictures goes on to say which of them it uses, in which order and with which weights.
-/

namespace CodedVideo.Hevc

/-! ## Kept pictures -/

/-- Where a slice has its short-term set from. -/
inductive ShortTermChoice where
  /-- No picture is kept. -/
  | refresh
  /-- The slice codes the set itself, in the given number of bits. -/
  | own (set : ShortTermSet) (sizeInBits : Nat)
  /-- The sequence parameter set has it, at the given place. -/
  | ofSequence (index : Nat)
deriving DecidableEq, Repr

/-- A long-term reference picture of a slice. -/
structure LongTermReference where
  /-- The place of the picture among the candidates of the sequence parameter set, if it is one. -/
  candidateIndex : Option Nat
  picture : LongTermCandidate
  /-- The difference in the high bits of the picture order count, if it is coded. -/
  highBitsDelta : Option Nat
deriving DecidableEq, Repr

/-- The pictures that are kept for reference. A decoding refresh keeps none. -/
structure KeptPictures where
  pictureOrderLowBits : Nat := 0
  shortTerm : ShortTermChoice := .refresh
  /-- First those chosen from the candidates, then the others. -/
  longTerm : List LongTermReference := []
  temporalMotionPrediction : Bool := false
deriving DecidableEq, Repr

/-- The short-term set that was chosen, given those of the sequence parameter set. -/
def ShortTermChoice.set? (choice : ShortTermChoice) (sets : List ShortTermSet) :
    Option ShortTermSet :=
  match choice with
  | refresh => none
  | own set _ => some set
  | ofSequence index => sets[index]?

namespace KeptPictures

/-- The number of kept pictures that the current picture itself may refer to. -/
def usedCount (kept : KeptPictures) (sets : List ShortTermSet) : Nat :=
  ((kept.shortTerm.set? sets).map (·.usedCount)).getD 0 +
    kept.longTerm.countP (·.picture.used)

/-- The long-term pictures that were chosen from the candidates. -/
def chosenLongTerm (kept : KeptPictures) : List LongTermReference :=
  kept.longTerm.filter (·.candidateIndex.isSome)

/-- The long-term pictures that the slice codes itself. -/
def codedLongTerm (kept : KeptPictures) : List LongTermReference :=
  kept.longTerm.filter (·.candidateIndex.isNone)

end KeptPictures

/-! ## Pictures in use -/

/-- The numbers of reference pictures in use, and whether the slice codes them itself. -/
structure ActiveReferences where
  overridden : Bool
  list0Minus1 : Nat
  list1Minus1 : Nat
deriving DecidableEq, Repr

/-- The places of the pictures in use among those that can be used, for each list that is
modified. -/
structure ListModification where
  list0 : Option (List Nat)
  list1 : Option (List Nat)
deriving DecidableEq, Repr

/-- The picture whose motion serves to predict that of the current one. -/
structure CollocatedPicture where
  fromList0 : Bool := true
  index : Nat := 0
deriving DecidableEq, Repr

/-- The explicit weights of a slice. -/
structure WeightTable where
  lumaLog2Denominator : Nat
  /-- That of the luma weights, unless chroma samples are coded with the luma samples. -/
  chromaLog2Denominator : Int
  list0 : List PredictionWeight
  list1 : List PredictionWeight
deriving DecidableEq, Repr

/-- How a slice refers to other pictures. -/
structure InterFields where
  active : ActiveReferences
  modification : Option ListModification := none
  zeroList1Differences : Bool := false
  arithmeticInit : Bool := false
  collocated : CollocatedPicture := {}
  weights : Option WeightTable := none
  fiveMinusMergeCandidates : Nat := 0
deriving DecidableEq, Repr

/-- The numbers of reference pictures that a picture parameter set gives. -/
def ActiveReferences.inherited (pictureSet : PictureParameterSet) : ActiveReferences where
  overridden := false
  list0Minus1 := pictureSet.defaultActiveList0Minus1
  list1Minus1 := pictureSet.defaultActiveList1Minus1

/-- The fields of a slice that refers to no other picture. -/
def InterFields.inherited (pictureSet : PictureParameterSet) : InterFields where
  active := .inherited pictureSet

/-! ## Grammar of kept pictures -/

open Decoder

open SegmentStart (structureName)

namespace ShortTermChoice

/-- A set that the slice codes itself, predicted from those of the sequence parameter set or
not. -/
def ownDecoder (sets : List ShortTermSet) : Decoder ShortTermChoice := do
  let start ← position
  let set ← ShortTermSet.decoder sets sets.length sets.length
  let stop ← position
  return own set (stop - start)

/-- The place of a set of the sequence parameter set; there is nothing to choose from one. -/
def ofSequenceDecoder (count : Nat) : Decoder ShortTermChoice := do
  require (count != 0)
    (.malformed structureName "short_term_ref_pic_set_sps_flag set without SPS sets")
  let index ← bits (ceilLog2 count)
  require (index < count)
    (.malformed structureName s!"short_term_ref_pic_set_idx {index} out of range")
  return ofSequence index

/-- The grammar of the short-term set. -/
def decoder (sets : List ShortTermSet) : Decoder ShortTermChoice := do
  if ← flag then ofSequenceDecoder sets.length else ownDecoder sets

end ShortTermChoice

namespace LongTermReference

/-- The greatest number of long-term pictures. -/
def maxCount : Nat := 32

/-- The difference in the high bits, behind a flag. -/
def highBitsDecoder : Decoder (Option Nat) := do
  optional (← flag) unsigned

/-- A picture chosen from the candidates. -/
def chosenDecoder (candidates : List LongTermCandidate) : Decoder LongTermReference := do
  let index ← bits (ceilLog2 candidates.length)
  match candidates[index]? with
  | none => abort (.malformed structureName s!"lt_idx_sps {index} out of range")
  | some picture =>
      let highBitsDelta ← highBitsDecoder
      return { candidateIndex := some index, picture, highBitsDelta }

/-- A picture that the slice codes itself, whose low bits have a given width. -/
def codedDecoder (width : Nat) : Decoder LongTermReference := do
  let picture ← LongTermCandidate.decoder width
  let highBitsDelta ← highBitsDecoder
  return { candidateIndex := none, picture, highBitsDelta }

/-- The grammar of all long-term pictures. -/
def listDecoder (width : Nat) (candidates : List LongTermCandidate) :
    Decoder (List LongTermReference) := do
  let chosenCount ← whenElse (!candidates.isEmpty) 0
    (boundedUnsigned structureName "num_long_term_sps" candidates.length)
  let codedCount ← boundedUnsigned structureName "num_long_term_pics" (maxCount - chosenCount)
  let chosen ← replicate chosenCount (chosenDecoder candidates)
  let coded ← replicate codedCount (codedDecoder width)
  return chosen ++ coded

end LongTermReference

/-- The grammar of the pictures that are kept. -/
def KeptPictures.decoder (sequenceSet : SequenceParameterSet) : Decoder KeptPictures := do
  let width := sequenceSet.log2MaxPictureOrder
  let pictureOrderLowBits ← bits width
  let shortTerm ← ShortTermChoice.decoder sequenceSet.shortTermSets
  let longTerm ←
    match sequenceSet.longTermCandidates with
    | none => done []
    | some candidates => LongTermReference.listDecoder width candidates
  let temporalMotionPrediction ← whenElse sequenceSet.temporalMotionPrediction false flag
  return { pictureOrderLowBits, shortTerm, longTerm, temporalMotionPrediction }

/-! ## Grammar of pictures in use -/

namespace ActiveReferences

/-- The greatest number of pictures in use, less one. -/
def maxMinus1 : Nat := 14

/-- The numbers of reference pictures in use: those of the picture parameter set, unless a flag
says that the slice codes its own. -/
def decoder (pictureSet : PictureParameterSet) (bidirectional : Bool) :
    Decoder ActiveReferences := do
  let overridden ← flag
  if overridden then
    let list0Minus1 ← boundedUnsigned structureName "num_ref_idx_l0_active_minus1" maxMinus1
    let list1Minus1 ← whenElse bidirectional pictureSet.defaultActiveList1Minus1
      (boundedUnsigned structureName "num_ref_idx_l1_active_minus1" maxMinus1)
    return { overridden, list0Minus1, list1Minus1 }
  else return inherited pictureSet

end ActiveReferences

namespace ListModification

/-- The modification of one list, behind a flag: a place of the given width for each picture. -/
def entriesDecoder (activeMinus1 width : Nat) : Decoder (Option (List Nat)) := do
  optional (← flag) (replicate (activeMinus1 + 1) (bits width))

/-- The modification of both lists, where `usedCount` pictures can be used. -/
def decoder (active : ActiveReferences) (usedCount : Nat) (bidirectional : Bool) :
    Decoder ListModification := do
  let width := ceilLog2 usedCount
  let list0 ← entriesDecoder active.list0Minus1 width
  let list1 ← whenElse bidirectional none (entriesDecoder active.list1Minus1 width)
  return { list0, list1 }

end ListModification

/-- The picture whose motion is used: a list, where there are two, and a place in it, where there
are several. -/
def CollocatedPicture.decoder (active : ActiveReferences) (bidirectional : Bool) :
    Decoder CollocatedPicture := do
  let fromList0 ← whenElse bidirectional true flag
  let activeMinus1 := if fromList0 then active.list0Minus1 else active.list1Minus1
  let index ← whenElse (activeMinus1 != 0) 0 unsigned
  return { fromList0, index }

namespace WeightTable

/-- The weights of one reference picture, given the flags that say which there are. -/
def weightDecoder (present : Bool × Bool) : Decoder PredictionWeight := do
  let luma ← optional present.1 Weight.decoder
  let chroma ← optional present.2 Weight.pairDecoder
  return { luma, chroma }

/-- The weights of one list: the flags of all pictures stand in front of the weights. -/
def listDecoder (chromaCoded : Bool) (count : Nat) : Decoder (List PredictionWeight) := do
  let lumaPresent ← replicate count flag
  let chromaPresent ← replicate count (whenElse chromaCoded false flag)
  each (lumaPresent.zip chromaPresent) weightDecoder

/-- The grammar of the weights. The denominator for chroma is coded as a difference. -/
def decoder (chromaCoded bidirectional : Bool) (active : ActiveReferences) :
    Decoder WeightTable := do
  let lumaLog2Denominator ← unsigned
  let difference ← whenElse chromaCoded 0 signed
  let list0 ← listDecoder chromaCoded (active.list0Minus1 + 1)
  let list1 ← whenElse bidirectional [] (listDecoder chromaCoded (active.list1Minus1 + 1))
  return {
    lumaLog2Denominator
    chromaLog2Denominator := lumaLog2Denominator + difference
    list0, list1 }

end WeightTable

namespace InterFields

/-- A slice codes explicit weights. -/
def hasWeights (pictureSet : PictureParameterSet) : SliceType → Bool
  | .p => pictureSet.weightedPrediction
  | .b => pictureSet.weightedBiprediction
  | .i => false

/-- The grammar of a slice's references, where it is to refer to other pictures. -/
def decoder (referring : ReferringStart) (sliceType : SliceType) (kept : KeptPictures) :
    Decoder InterFields := do
  let pictureSet := referring.pictureSet
  let sequenceSet := referring.sequenceSet
  let bidirectional := sliceType.isBidirectional
  let usedCount := kept.usedCount sequenceSet.shortTermSets
  let active ← ActiveReferences.decoder pictureSet bidirectional
  let modification ← optional (pictureSet.listModificationPresent && decide (1 < usedCount))
    (ListModification.decoder active usedCount bidirectional)
  let zeroList1Differences ← whenElse bidirectional false flag
  let arithmeticInit ← whenElse pictureSet.arithmeticInitPresent false flag
  let collocated ← whenElse kept.temporalMotionPrediction {}
    (CollocatedPicture.decoder active bidirectional)
  let weights ← optional (hasWeights pictureSet sliceType)
    (WeightTable.decoder (sequenceSet.codedChroma != 0) bidirectional active)
  let fiveMinusMergeCandidates ← unsigned
  return {
    active, modification, zeroList1Differences, arithmeticInit, collocated, weights,
    fiveMinusMergeCandidates }

end InterFields

end CodedVideo.Hevc
