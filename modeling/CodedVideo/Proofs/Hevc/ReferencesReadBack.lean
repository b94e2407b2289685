import CodedVideo.Hevc.SliceCoding
import CodedVideo.Proofs.SharedCoding

/-!
# Reading the reference pictures of HEVC slices back

What a slice says of its reference pictures is consistent if it can be coded with the parameter sets
of the slice: the pictures of an explicit set follow one another outward, lists have the lengths
that their counts ask for, and what is not coded has the value that a reader assumes. Such pictures
are written field by field and decoded to themselves.
-/

namespace CodedVideo.Hevc

open CodedField (codeAll flagged onlyIf present)
open Decoder (Decodes ReadsBack)

/-! ## Explicit short-term sets -/

namespace ShortTermSet

/-- Each picture is further away in the direction of `sign` than the one in front of it, the first
one than `last`, by a distance that can be coded. -/
def Outward (sign : Int) : Int → List ReferencePicture → Prop
  | _, [] => True
  | last, picture :: pictures =>
      (∃ minus1 ≤ maxDistanceMinus1, picture.delta = last + sign * (minus1 + 1 : Nat)) ∧
        Outward sign picture.delta pictures

/-- The set is not predicted, and its pictures can be coded. -/
structure Explicit (set : ShortTermSet) : Prop where
  prediction : set.prediction = none
  size_le : set.size ≤ maxPictures
  before : Outward (-1) 0 set.before
  after : Outward 1 0 set.after

theorem decodes_distance {minus1 : Nat} (inRange : minus1 ≤ maxDistanceMinus1) :
    Decodes distanceDecoder [.unsigned minus1] (minus1 + 1) := by
  intro start stop
  refine ReadsBack.bind_last (.unsigned minus1) ?_
  refine ReadsBack.bind_first (.require (decide_eq_true inRange)) ?_
  exact ReadsBack.done _

/-- Pictures that follow one another outward are decoded behind the others. -/
theorem decodes_picturesCoding {sign : Int} (isSign : sign.natAbs = 1)
    {pictures : List ReferencePicture} {last : Int} (outward : Outward sign last pictures)
    (others : List ReferencePicture) :
    Decodes (picturesAfter sign pictures.length last others) (picturesCoding last pictures)
      (others.reverse ++ pictures) := by
  induction pictures generalizing last others with
  | nil =>
      rw [List.append_nil]
      exact .done others.reverse
  | cons picture pictures inductionHypothesis =>
      rcases picture with ⟨delta, used⟩
      obtain ⟨⟨minus1, inRange, rfl⟩, outward⟩ := outward
      -- The coding keeps the size of the distance only; the side is that of the list.
      have coded : (last + sign * (minus1 + 1 : Nat) - last).natAbs - 1 = minus1 := by
        rw [Int.add_comm, Int.add_sub_cancel, Int.natAbs_mul, isSign, Nat.one_mul]
        exact Nat.add_sub_cancel minus1 1
      have following :=
        inductionHypothesis outward (⟨last + sign * (minus1 + 1 : Nat), used⟩ :: others)
      rw [List.reverse_cons, List.append_assoc] at following
      intro start stop
      rw [picturesCoding, coded]
      refine ReadsBack.bind (decodes_distance inRange) fun mid => ?_
      refine ReadsBack.bind (.flag used) fun mid => ?_
      exact following mid stop

/-- An explicit set is decoded, whatever its place among the sets of a sequence. -/
theorem Explicit.decodes_coding {set : ShortTermSet} (explicit : set.Explicit)
    (sets : List ShortTermSet) (index total : Nat) :
    Decodes (ShortTermSet.decoder sets index total) (set.coding (index == 0)) set := by
  rcases set with ⟨prediction, before, after⟩
  rcases explicit with ⟨rfl, size_le, beforeOutward, afterOutward⟩
  apply Decodes.within
  simp only [coding, List.append_assoc, List.cons_append, List.nil_append]
  intro start stop
  refine ReadsBack.bind (.whenElse (.flag false) fun _ => rfl) fun mid => ?_
  refine ReadsBack.bind (.unsigned before.length) fun mid => ?_
  refine ReadsBack.bind (.unsigned after.length) fun mid => ?_
  refine ReadsBack.bind_first (.require (decide_eq_true size_le)) ?_
  refine ReadsBack.bind (decodes_picturesCoding rfl beforeOutward []) fun mid => ?_
  refine ReadsBack.bind_last (decodes_picturesCoding rfl afterOutward []) ?_
  exact ReadsBack.done _

theorem not_isAligning_of_mem_picturesCoding (last : Int) (pictures : List ReferencePicture) :
    ∀ field ∈ picturesCoding last pictures, ¬ field.IsAligning := by
  induction pictures generalizing last with
  | nil => exact List.forall_mem_nil _
  | cons picture pictures inductionHypothesis =>
      rw [picturesCoding, List.forall_mem_cons, List.forall_mem_cons]
      exact ⟨id, id, inductionHypothesis picture.delta⟩

/-- No field of a set aligns, so a set takes as many bits wherever it starts. -/
theorem codeAll_coding (isFirst : Bool) (set : ShortTermSet) (start : Nat) :
    codeAll (set.coding isFirst) start = codeAll (set.coding isFirst) 0 := by
  apply CodedField.codeAll_eq_of_not_isAligning
  simp only [coding, List.forall_mem_append]
  refine ⟨⟨⟨?_, ?_⟩, not_isAligning_of_mem_picturesCoding 0 set.before⟩,
    not_isAligning_of_mem_picturesCoding 0 set.after⟩
  · cases isFirst with
    | true => exact List.forall_mem_nil _
    | false => exact List.forall_mem_singleton.mpr id
  · rw [List.forall_mem_cons, List.forall_mem_singleton]
    exact ⟨id, id⟩

end ShortTermSet

/-! ## Kept pictures -/

/-- A set that the slice codes itself is explicit and has the size of its fields, and a set that it
chooses is there. -/
def ShortTermChoice.ConsistentWith (choice : ShortTermChoice) (sets : List ShortTermSet) : Prop :=
  match choice with
  | refresh => False
  | own set sizeInBits => set.Explicit ∧ sizeInBits = (codeAll (set.coding sets.isEmpty) 0).length
  | ofSequence index => index < sets.length

/-- A picture that is chosen from the candidates is the one at its place among them. -/
def LongTermReference.ConsistentWith (reference : LongTermReference)
    (candidates : List LongTermCandidate) : Prop :=
  ∀ index ∈ reference.candidateIndex, candidates[index]? = some reference.picture

/-- The short-term set is there, the long-term pictures are few enough and those that are chosen
from the candidates come first. -/
structure KeptPictures.ConsistentWith (kept : KeptPictures) (sequenceSet : SequenceParameterSet) :
    Prop where
  shortTerm : kept.shortTerm.ConsistentWith sequenceSet.shortTermSets
  noLongTerm : sequenceSet.longTermCandidates = none → kept.longTerm = []
  longTerm_eq : kept.longTerm = kept.chosenLongTerm ++ kept.codedLongTerm
  length_le : kept.longTerm.length ≤ LongTermReference.maxCount
  chosen_le : ∀ candidates ∈ sequenceSet.longTermCandidates,
    kept.chosenLongTerm.length ≤ candidates.length
  longTerm : ∀ candidates ∈ sequenceSet.longTermCandidates, ∀ reference ∈ kept.longTerm,
    reference.ConsistentWith candidates
  temporalMotionPrediction :
    sequenceSet.temporalMotionPrediction = false → kept.temporalMotionPrediction = false

/-- The bits of a set that the slice codes itself are counted. -/
theorem ShortTermChoice.decodes_own {sets : List ShortTermSet} {set : ShortTermSet}
    (explicit : set.Explicit) :
    Decodes (ownDecoder sets) (set.coding sets.isEmpty)
      (own set (codeAll (set.coding sets.isEmpty) 0).length) := by
  intro start stop exact ends
  have size_eq : stop - start = (codeAll (set.coding sets.isEmpty) 0).length := by
    rw [← ends, Nat.add_sub_cancel_left, ShortTermSet.codeAll_coding]
  have index_eq : sets.isEmpty = (sets.length == 0) := by
    cases sets <;> rfl
  have reads : ReadsBack (ownDecoder sets) (set.coding (sets.length == 0)) (own set (stop - start))
      start stop := by
    refine ReadsBack.position_bind ?_
    refine ReadsBack.bind_last (explicit.decodes_coding sets sets.length sets.length) ?_
    exact ReadsBack.position_bind (.done _)
  rw [← index_eq, size_eq] at reads
  exact reads exact ends

theorem ShortTermChoice.decodes_ofSequence {count index : Nat} (isThere : index < count) :
    Decodes (ofSequenceDecoder count) [.bits index (ceilLog2 count)] (ofSequence index) := by
  have someThere : (count != 0) = true := bne_iff_ne.mpr (Nat.ne_zero_of_lt isThere)
  intro start stop
  refine ReadsBack.bind_first (.require someThere) ?_
  refine ReadsBack.bind_last (.bits index (ceilLog2 count)) ?_
  refine ReadsBack.bind_first (.require (decide_eq_true isThere)) ?_
  exact ReadsBack.done _

theorem ShortTermChoice.decodes_coding {choice : ShortTermChoice} {sets : List ShortTermSet}
    (consistent : choice.ConsistentWith sets) :
    Decodes (decoder sets) (choice.coding sets) choice := by
  intro start stop
  cases choice with
  | refresh => exact consistent.elim
  | own set sizeInBits =>
      obtain ⟨explicit, rfl⟩ := consistent
      refine ReadsBack.bind (.flag false) fun mid => ?_
      exact decodes_own explicit mid stop
  | ofSequence index =>
      refine ReadsBack.bind (.flag true) fun mid => ?_
      exact decodes_ofSequence consistent mid stop

/-! ### Long-term pictures -/

theorem LongTermCandidate.decodes_coding (candidate : LongTermCandidate) (width : Nat) :
    Decodes (decoder width) (candidate.coding width) candidate := by
  intro start stop
  refine ReadsBack.bind (.bits candidate.lowBits width) fun mid => ?_
  exact ReadsBack.bind_last (.flag candidate.used) (.done candidate)

namespace LongTermReference

theorem decodes_highBits (highBitsDelta : Option Nat) :
    Decodes highBitsDecoder (flagged (fun delta => [.unsigned delta]) highBitsDelta)
      highBitsDelta :=
  .optionalBehindFlag fun delta _ => .unsigned delta

theorem decodes_chosen {reference : LongTermReference} {candidates : List LongTermCandidate}
    (consistent : reference.ConsistentWith candidates) (width : Nat)
    (isChosen : reference.candidateIndex.isSome = true) :
    Decodes (chosenDecoder candidates) (reference.coding width candidates.length) reference := by
  rcases reference with ⟨_ | index, picture, highBitsDelta⟩
  · contradiction
  · intro start stop
    refine ReadsBack.bind (.bits index (ceilLog2 candidates.length)) fun mid => ?_
    rw [consistent index rfl]
    refine ReadsBack.bind_last (decodes_highBits highBitsDelta) ?_
    exact ReadsBack.done _

theorem decodes_coded {reference : LongTermReference} (width candidateCount : Nat)
    (isCoded : reference.candidateIndex.isNone = true) :
    Decodes (codedDecoder width) (reference.coding width candidateCount) reference := by
  rcases reference with ⟨_ | index, picture, highBitsDelta⟩
  · intro start stop
    refine ReadsBack.bind (picture.decodes_coding width) fun mid => ?_
    exact ReadsBack.bind_last (decodes_highBits highBitsDelta) (.done _)
  · contradiction

end LongTermReference

theorem KeptPictures.decodes_longTerm {kept : KeptPictures} {sequenceSet : SequenceParameterSet}
    (consistent : kept.ConsistentWith sequenceSet) {candidates : List LongTermCandidate}
    (isThere : sequenceSet.longTermCandidates = some candidates) (width : Nat) :
    Decodes (LongTermReference.listDecoder width candidates)
      (LongTermReference.listCoding width candidates.length kept) kept.longTerm := by
  have chosen_le := consistent.chosen_le candidates isThere
  have length_le := consistent.length_le
  rw [consistent.longTerm_eq, List.length_append] at length_le
  have coded_le : kept.codedLongTerm.length ≤
      LongTermReference.maxCount - kept.chosenLongTerm.length := by
    omega
  have chosenReads : ∀ reference ∈ kept.chosenLongTerm,
      Decodes (LongTermReference.chosenDecoder candidates)
        (reference.coding width candidates.length) reference := by
    intro reference isChosen
    have isListed := List.mem_filter.mp isChosen
    exact LongTermReference.decodes_chosen
      (consistent.longTerm candidates isThere reference isListed.1) width isListed.2
  have codedReads : ∀ reference ∈ kept.codedLongTerm,
      Decodes (LongTermReference.codedDecoder width)
        (reference.coding width candidates.length) reference := by
    intro reference isCoded
    exact LongTermReference.decodes_coded width _ (List.mem_filter.mp isCoded).2
  have notEmpty_eq : (candidates.length != 0) = !candidates.isEmpty := by
    cases candidates <;> rfl
  intro start stop
  rw [LongTermReference.listCoding, notEmpty_eq, consistent.longTerm_eq, List.flatMap_append,
    List.append_assoc]
  refine ReadsBack.bind (.whenElse (.boundedUnsigned chosen_le) fun isEmpty => ?_) fun mid => ?_
  · rw [List.isEmpty_iff.mp (Bool.not_eq_eq_eq_not.mp isEmpty)] at chosen_le
    exact Nat.eq_zero_of_le_zero chosen_le
  refine ReadsBack.bind (.boundedUnsigned coded_le) fun mid => ?_
  refine ReadsBack.bind (.replicate rfl chosenReads) fun mid => ?_
  refine ReadsBack.bind_last (.replicate rfl codedReads) ?_
  exact ReadsBack.done _

theorem KeptPictures.decodes_coding {kept : KeptPictures} {sequenceSet : SequenceParameterSet}
    (consistent : kept.ConsistentWith sequenceSet) :
    Decodes (decoder sequenceSet) (kept.coding sequenceSet) kept := by
  have temporalReads : Decodes
      (Decoder.whenElse sequenceSet.temporalMotionPrediction false Decoder.flag)
      (onlyIf sequenceSet.temporalMotionPrediction [.flag kept.temporalMotionPrediction])
      kept.temporalMotionPrediction :=
    .whenElse (.flag kept.temporalMotionPrediction) consistent.temporalMotionPrediction
  simp only [coding, List.append_assoc]
  intro start stop
  refine ReadsBack.bind (.bits kept.pictureOrderLowBits _) fun mid => ?_
  refine ReadsBack.bind (ShortTermChoice.decodes_coding consistent.shortTerm) fun mid => ?_
  -- The grammar branches here, and each branch goes on to the end.
  cases candidates_eq : sequenceSet.longTermCandidates with
  | none =>
      refine ReadsBack.bind_first (.done []) (ReadsBack.bind_last temporalReads ?_)
      rw [← consistent.noLongTerm candidates_eq]
      exact ReadsBack.done kept
  | some candidates =>
      refine ReadsBack.bind (decodes_longTerm consistent candidates_eq _) fun mid => ?_
      exact ReadsBack.bind_last temporalReads (.done kept)

/-! ## Pictures in use -/

/-- The numbers of reference pictures that a slice does not code are those of its picture parameter
set. -/
structure ActiveReferences.ConsistentWith (active : ActiveReferences)
    (pictureSet : PictureParameterSet) (bidirectional : Bool) : Prop where
  notOverridden : active.overridden = false → active = inherited pictureSet
  list0Minus1_le : active.overridden = true → active.list0Minus1 ≤ maxMinus1
  list1Minus1_le :
    active.overridden = true → bidirectional = true → active.list1Minus1 ≤ maxMinus1
  list1Minus1 : bidirectional = false → active.list1Minus1 = pictureSet.defaultActiveList1Minus1

/-- A list that is modified names as many places as pictures of it are in use. -/
structure ListModification.ConsistentWith (modification : ListModification)
    (active : ActiveReferences) (bidirectional : Bool) : Prop where
  list0 : ∀ places ∈ modification.list0, places.length = active.list0Minus1 + 1
  list1 : ∀ places ∈ modification.list1, places.length = active.list1Minus1 + 1
  noList1 : bidirectional = false → modification.list1 = none

/-- There is nothing to choose from one list or from one picture. -/
structure CollocatedPicture.ConsistentWith (collocated : CollocatedPicture)
    (active : ActiveReferences) (bidirectional : Bool) : Prop where
  fromList0 : bidirectional = false → collocated.fromList0 = true
  index : (if collocated.fromList0 then active.list0Minus1 else active.list1Minus1) = 0 →
    collocated.index = 0

/-- There are weights for each picture in use, and weights for chroma only where it is coded. -/
structure WeightTable.ConsistentWith (weights : WeightTable) (chromaCoded bidirectional : Bool)
    (active : ActiveReferences) : Prop where
  chromaLog2Denominator :
    chromaCoded = false → weights.chromaLog2Denominator = weights.lumaLog2Denominator
  list0_length : weights.list0.length = active.list0Minus1 + 1
  list1_length : bidirectional = true → weights.list1.length = active.list1Minus1 + 1
  noList1 : bidirectional = false → weights.list1 = []
  noChroma : chromaCoded = false →
    ∀ weight ∈ weights.list0 ++ weights.list1, weight.chroma = none

/-- What a slice says of the pictures that it refers to can be coded, and what it does not code is
as a reader assumes. -/
structure InterFields.ConsistentWith (inter : InterFields) (pictureSet : PictureParameterSet)
    (sequenceSet : SequenceParameterSet) (sliceType : SliceType) (kept : KeptPictures) : Prop where
  active : inter.active.ConsistentWith pictureSet sliceType.isBidirectional
  hasModification : inter.modification.isSome =
    (pictureSet.listModificationPresent && decide (1 < kept.usedCount sequenceSet.shortTermSets))
  modification : ∀ modification ∈ inter.modification,
    modification.ConsistentWith inter.active sliceType.isBidirectional
  zeroList1Differences : sliceType.isBidirectional = false → inter.zeroList1Differences = false
  arithmeticInit : pictureSet.arithmeticInitPresent = false → inter.arithmeticInit = false
  noCollocated : kept.temporalMotionPrediction = false → inter.collocated = {}
  collocated : inter.collocated.ConsistentWith inter.active sliceType.isBidirectional
  hasWeights : inter.weights.isSome = InterFields.hasWeights pictureSet sliceType
  weights : ∀ weights ∈ inter.weights,
    weights.ConsistentWith (sequenceSet.codedChroma != 0) sliceType.isBidirectional inter.active

theorem ActiveReferences.decodes_coding {active : ActiveReferences}
    {pictureSet : PictureParameterSet} {bidirectional : Bool}
    (consistent : active.ConsistentWith pictureSet bidirectional) :
    Decodes (decoder pictureSet bidirectional) (active.coding bidirectional) active := by
  intro start stop
  refine ReadsBack.bind (.flag active.overridden) fun mid => ?_
  cases overridden_eq : active.overridden with
  | true =>
      refine ReadsBack.bind (.boundedUnsigned (consistent.list0Minus1_le overridden_eq))
        fun mid => ?_
      refine ReadsBack.bind_last (.whenElse_of (fun isThere =>
        .boundedUnsigned (consistent.list1Minus1_le overridden_eq isThere))
          consistent.list1Minus1) ?_
      rw [← overridden_eq]
      exact ReadsBack.done active
  | false =>
      rw [if_neg Bool.false_ne_true, ← consistent.notOverridden overridden_eq]
      exact ReadsBack.done active

theorem ListModification.decodes_entries {entries : Option (List Nat)} {activeMinus1 width : Nat}
    (length_eq : ∀ places ∈ entries, places.length = activeMinus1 + 1) :
    Decodes (entriesDecoder activeMinus1 width)
      (flagged (List.map fun entry => .bits entry width) entries) entries :=
  .optionalBehindFlag fun places isThere =>
    .replicate_map (length_eq places isThere) fun entry => .bits entry width

theorem ListModification.decodes_coding {modification : ListModification}
    {active : ActiveReferences} {bidirectional : Bool}
    (consistent : modification.ConsistentWith active bidirectional) (usedCount : Nat) :
    Decodes (decoder active usedCount bidirectional) (modification.coding usedCount bidirectional)
      modification := by
  intro start stop
  refine ReadsBack.bind (decodes_entries consistent.list0) fun mid => ?_
  refine ReadsBack.bind_last (.whenElse (decodes_entries consistent.list1) consistent.noList1) ?_
  exact ReadsBack.done modification

theorem CollocatedPicture.decodes_coding {collocated : CollocatedPicture}
    {active : ActiveReferences} {bidirectional : Bool}
    (consistent : collocated.ConsistentWith active bidirectional) :
    Decodes (decoder active bidirectional) (collocated.coding active bidirectional)
      collocated := by
  intro start stop
  refine ReadsBack.bind (.whenElse (.flag collocated.fromList0) consistent.fromList0)
    fun mid => ?_
  refine ReadsBack.bind_last (.whenElse (.unsigned collocated.index) fun onlyOne =>
    consistent.index (bne_eq_false_iff_eq.mp onlyOne)) ?_
  exact ReadsBack.done collocated

/-! ### Weights -/

namespace WeightTable

theorem decodes_weightCoding (weight : PredictionWeight) :
    Decodes (weightDecoder (weight.luma.isSome, weight.chroma.isSome)) (weightCoding weight)
      weight := by
  intro start stop
  refine ReadsBack.bind (.optional rfl fun luma _ => luma.decodes_coding) fun mid => ?_
  refine ReadsBack.bind_last (.optional rfl fun chroma _ => Weight.decodes_pairCoding chroma) ?_
  exact ReadsBack.done weight

/-- The flags of all pictures of a list are decoded. -/
theorem decodes_flags (isThere : PredictionWeight → Bool) (weights : List PredictionWeight) :
    Decodes (Decoder.replicate weights.length Decoder.flag)
      (weights.map fun weight => .flag (isThere weight)) (weights.map isThere) := by
  have length_eq : (weights.map isThere).length = weights.length := List.length_map isThere
  have reads := Decodes.replicate_map length_eq Decodes.flag
  rw [List.map_map] at reads
  exact reads

/-- Where chroma is not coded, no flags are read and none is set. -/
theorem decodes_chromaFlags {chromaCoded : Bool} {weights : List PredictionWeight}
    (noChroma : chromaCoded = false → ∀ weight ∈ weights, weight.chroma = none) :
    Decodes (Decoder.replicate weights.length (Decoder.whenElse chromaCoded false Decoder.flag))
      (onlyIf chromaCoded (weights.map fun weight => .flag weight.chroma.isSome))
      (weights.map fun weight => weight.chroma.isSome) := by
  cases chromaCoded with
  | true => exact decodes_flags (fun weight => weight.chroma.isSome) weights
  | false =>
      have noFlags : ∀ isThere ∈ weights.map fun weight => weight.chroma.isSome,
          Decodes (Decoder.done false) [] isThere := by
        rw [List.forall_mem_map]
        intro weight isWeight
        rw [noChroma rfl weight isWeight]
        exact .done false
      have reads := Decodes.replicate (List.length_map _) noFlags
      rw [List.flatMap_eq_nil_iff.mpr fun _ _ => rfl] at reads
      exact reads

theorem decodes_listCoding {chromaCoded : Bool} {weights : List PredictionWeight} {count : Nat}
    (length_eq : weights.length = count)
    (noChroma : chromaCoded = false → ∀ weight ∈ weights, weight.chroma = none) :
    Decodes (listDecoder chromaCoded count) (listCoding chromaCoded weights) weights := by
  subst length_eq
  rw [listCoding, List.append_assoc]
  intro start stop
  refine ReadsBack.bind (decodes_flags (fun weight => weight.luma.isSome) weights) fun mid => ?_
  refine ReadsBack.bind (decodes_chromaFlags noChroma) fun mid => ?_
  rw [List.zip_map']
  exact Decodes.each (fun weight _ => decodes_weightCoding weight) mid stop

theorem decodes_coding {weights : WeightTable} {chromaCoded bidirectional : Bool}
    {active : ActiveReferences}
    (consistent : weights.ConsistentWith chromaCoded bidirectional active) :
    Decodes (decoder chromaCoded bidirectional active) (weights.coding chromaCoded bidirectional)
      weights := by
  have noChroma := consistent.noChroma
  simp only [List.forall_mem_append] at noChroma
  simp only [coding, List.append_assoc]
  intro start stop
  refine ReadsBack.bind (.unsigned weights.lumaLog2Denominator) fun mid => ?_
  refine ReadsBack.bind (.whenElse (.signed _) fun notCoded =>
    Int.sub_eq_zero.mpr (consistent.chromaLog2Denominator notCoded)) fun mid => ?_
  refine ReadsBack.bind (decodes_listCoding consistent.list0_length fun notCoded =>
    (noChroma notCoded).1) fun mid => ?_
  refine ReadsBack.bind_last (.whenElse_of (fun isThere =>
    decodes_listCoding (consistent.list1_length isThere) fun notCoded => (noChroma notCoded).2)
      consistent.noList1) ?_
  rw [Int.add_comm, Int.sub_add_cancel]
  exact ReadsBack.done weights

end WeightTable

theorem InterFields.decodes_coding {inter : InterFields} {referring : ReferringStart}
    {sliceType : SliceType} {kept : KeptPictures}
    (consistent : inter.ConsistentWith referring.pictureSet referring.sequenceSet sliceType kept) :
    Decodes (decoder referring sliceType kept)
      (inter.coding referring.pictureSet referring.sequenceSet sliceType.isBidirectional
        kept.temporalMotionPrediction (kept.usedCount referring.sequenceSet.shortTermSets))
      inter := by
  simp only [coding, List.append_assoc]
  intro start stop
  refine ReadsBack.bind (ActiveReferences.decodes_coding consistent.active) fun mid => ?_
  refine ReadsBack.bind (.optional consistent.hasModification fun modification isThere =>
    ListModification.decodes_coding (consistent.modification modification isThere) _)
      fun mid => ?_
  refine ReadsBack.bind (.whenElse (.flag inter.zeroList1Differences)
    consistent.zeroList1Differences) fun mid => ?_
  refine ReadsBack.bind (.whenElse (.flag inter.arithmeticInit) consistent.arithmeticInit)
    fun mid => ?_
  refine ReadsBack.bind (.whenElse (CollocatedPicture.decodes_coding consistent.collocated)
    consistent.noCollocated) fun mid => ?_
  refine ReadsBack.bind (.optional consistent.hasWeights fun weights isThere =>
    WeightTable.decodes_coding (consistent.weights weights isThere)) fun mid => ?_
  refine ReadsBack.bind_last (.unsigned inter.fiveMinusMergeCandidates) ?_
  exact ReadsBack.done inter

end CodedVideo.Hevc
