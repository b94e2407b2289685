import CodedVideo.Proofs.Decoder.Yields
import CodedVideo.Proofs.Hevc.ReferencesReadBack

/-!
# The order of HEVC short-term reference picture sets

Read from the far end in front of the current picture to the far end behind it, with the current
picture in between, the pictures of a set follow one another in output order. Shifting the pictures
and leaving some out keeps that order, so it passes from each set to those that are predicted from
it, however long the chain. Along a chain the distances grow by no more than one shift with each
set.

Main statements: `SequenceParameterSet.shortTermChained_of_keepDecoded` and
`SliceSegment.ownOrdered_of_ofUnit`.
-/

namespace CodedVideo.Hevc

open Decoder (Yields)

namespace ShortTermSet

/-- The distances of pictures from the current one. -/
def deltas (pictures : List ReferencePicture) : List Int :=
  pictures.map (·.delta)

/-- The distances of the pictures of a set and of the current picture, in output order. -/
def line (set : ShortTermSet) : List Int :=
  (deltas set.before).reverse ++ 0 :: deltas set.after

/-- The pictures of a set follow one another in output order, there are not too many, and none is
further away than `bound`. -/
structure Ordered (bound : Nat) (set : ShortTermSet) : Prop where
  increasing : set.line.Pairwise (· < ·)
  size_le : set.size ≤ maxPictures
  delta_le : ∀ delta ∈ set.line, delta.natAbs ≤ bound

theorem Ordered.weaken {bound wider : Nat} {set : ShortTermSet} (ordered : set.Ordered bound)
    (isWider : bound ≤ wider) : set.Ordered wider where
  increasing := ordered.increasing
  size_le := ordered.size_le
  delta_le := fun delta isDelta => Nat.le_trans (ordered.delta_le delta isDelta) isWider

/-- The greatest step between pictures next to each other, and the greatest shift. -/
def maxDistance : Nat := maxDistanceMinus1 + 1

/-- How far away a picture can be that is listed by a set behind `index` other ones. -/
def deltaBound (index : Nat) : Nat := (maxPictures + index) * maxDistance

theorem deltaBound_mono {index later : Nat} (isLater : index ≤ later) :
    deltaBound index ≤ deltaBound later :=
  Nat.mul_le_mul_right _ (Nat.add_le_add_left isLater _)

theorem deltaBound_succ (index : Nat) : deltaBound (index + 1) = deltaBound index + maxDistance := by
  rw [deltaBound, deltaBound, ← Nat.add_assoc, Nat.succ_mul]

/-! ## Explicit sets -/

/-- Pictures that follow one another outward are ever further away, and each step adds at most the
greatest distance. -/
theorem Outward.follows {sign : Int} (isSign : sign * sign = 1) {last : Int}
    {pictures : List ReferencePicture} (outward : Outward sign last pictures) :
    (deltas pictures).Pairwise (fun first second => 0 < sign * (second - first)) ∧
      ∀ delta ∈ deltas pictures, 0 < sign * (delta - last) ∧
        sign * (delta - last) ≤ pictures.length * maxDistance := by
  induction pictures generalizing last with
  | nil => exact ⟨.nil, List.forall_mem_nil _⟩
  | cons picture pictures inductionHypothesis =>
      obtain ⟨⟨minus1, inRange, delta_eq⟩, outward⟩ := outward
      rcases inductionHypothesis outward with ⟨increasing, distances⟩
      have step_eq : sign * (picture.delta - last) = minus1 + 1 := by
        have difference_eq : picture.delta - last = sign * (minus1 + 1 : Nat) :=
          Int.sub_eq_iff_eq_add'.mpr delta_eq
        rw [difference_eq, ← Int.mul_assoc, isSign, Int.one_mul, Int.natCast_succ]
      have split (delta : Int) :
          sign * (delta - last) = sign * (delta - picture.delta) + (minus1 + 1) := by
        have difference_eq : delta - last = delta - picture.delta + (picture.delta - last) := by
          omega
        rw [difference_eq, Int.mul_add, step_eq]
      rw [deltas, List.map_cons, List.pairwise_cons, List.forall_mem_cons, List.length_cons]
      simp only [maxDistance, maxDistanceMinus1] at distances inRange ⊢
      refine ⟨⟨fun delta isDelta => (distances delta isDelta).1, increasing⟩, ?_, ?_⟩
      · rw [step_eq]
        omega
      · intro delta isDelta
        have distance := distances delta isDelta
        rw [split]
        omega

/-- An explicit set is ordered, and its pictures are near. -/
theorem Explicit.ordered {set : ShortTermSet} (explicit : set.Explicit) :
    set.Ordered (deltaBound 0) := by
  rcases explicit.before.follows rfl with ⟨beforeIncreasing, beforeDistances⟩
  rcases explicit.after.follows rfl with ⟨afterIncreasing, afterDistances⟩
  have size_le := explicit.size_le
  simp only [size, maxPictures] at size_le
  simp only [maxDistance, maxDistanceMinus1] at beforeDistances afterDistances
  constructor
  · rw [line, List.pairwise_append, List.pairwise_reverse, List.pairwise_cons]
    refine ⟨?_, ⟨fun delta isAfter => ?_, ?_⟩, fun first isBefore second isBehind => ?_⟩
    · exact beforeIncreasing.imp fun isFurther => by omega
    · have distance := afterDistances delta isAfter
      omega
    · exact afterIncreasing.imp fun isFurther => by omega
    · have beforeDistance := beforeDistances first (List.mem_reverse.mp isBefore)
      rcases List.mem_cons.mp isBehind with rfl | isAfter
      · omega
      · have afterDistance := afterDistances second isAfter
        omega
  · exact explicit.size_le
  · intro delta isDelta
    simp only [deltaBound, maxPictures, maxDistance, maxDistanceMinus1]
    rw [line, List.mem_append, List.mem_reverse, List.mem_cons] at isDelta
    rcases isDelta with isBefore | rfl | isAfter
    · have distance := beforeDistances delta isBefore
      omega
    · exact Nat.zero_le _
    · have distance := afterDistances delta isAfter
      omega

theorem yields_distanceDecoder :
    Yields distanceDecoder fun distance => ∃ minus1 ≤ maxDistanceMinus1, distance = minus1 + 1 := by
  refine Yields.behind fun minus1 => ?_
  refine Yields.bind Yields.require fun _ inRange => ?_
  exact Yields.done ⟨minus1, of_decide_eq_true inRange, rfl⟩

/-- Pictures are decoded so that they follow one another outward. -/
theorem yields_picturesAfter (sign : Int) (count : Nat) (last : Int)
    (others : List ReferencePicture) :
    Yields (picturesAfter sign count last others) fun pictures =>
      ∃ further, pictures = others.reverse ++ further ∧ further.length = count ∧
        Outward sign last further := by
  induction count generalizing last others with
  | zero => exact Yields.done ⟨[], (List.append_nil _).symm, rfl, True.intro⟩
  | succ count inductionHypothesis =>
      refine Yields.bind yields_distanceDecoder fun distance isDistance => ?_
      refine Yields.behind fun used => ?_
      let picture : ReferencePicture := { delta := last + sign * distance, used }
      refine (inductionHypothesis picture.delta (picture :: others)).weaken ?_
      rintro pictures ⟨further, rfl, length_eq, outward⟩
      obtain ⟨minus1, inRange, distance_eq⟩ := isDistance
      refine ⟨picture :: further, ?_, congrArg (· + 1) length_eq, ⟨minus1, inRange, ?_⟩, outward⟩
      · rw [List.reverse_cons, List.append_assoc, List.singleton_append]
      · exact congrArg (fun distance : Nat => last + sign * distance) distance_eq

theorem yields_explicitDecoder : Yields explicitDecoder Explicit := by
  refine Yields.behind fun beforeCount => ?_
  refine Yields.behind fun afterCount => ?_
  refine Yields.bind Yields.require fun _ sizeInRange => ?_
  refine Yields.bind (yields_picturesAfter (-1) beforeCount 0 []) fun before isBefore => ?_
  refine Yields.bind (yields_picturesAfter 1 afterCount 0 []) fun after isAfter => ?_
  obtain ⟨_, rfl, rfl, beforeOutward⟩ := isBefore
  obtain ⟨_, rfl, rfl, afterOutward⟩ := isAfter
  exact Yields.done {
    prediction := rfl
    size_le := of_decide_eq_true sizeInRange
    before := beforeOutward
    after := afterOutward }

/-! ## Predicted sets -/

/-- The candidates of a predicted set and the picture of the set that it is predicted from, in
output order. -/
def candidateLine (before after : List Candidate) (own : Candidate) : List Candidate :=
  before.reverse ++ own :: after

/-- Candidates for shifted pictures stand where the line of those is shifted to. -/
theorem map_delta_candidateLine {source : ShortTermSet} {shift : Int} {before after : List Candidate}
    {own : Candidate}
    (before_eq : before.map (·.delta) = source.before.map fun picture => picture.delta + shift)
    (after_eq : after.map (·.delta) = source.after.map fun picture => picture.delta + shift)
    (own_eq : shift = own.delta) :
    (candidateLine before after own).map (·.delta) = source.line.map (· + shift) := by
  rw [candidateLine, List.map_append, List.map_cons, List.map_reverse, before_eq, after_eq,
    ← own_eq, line, deltas, deltas]
  simp [Function.comp_def]

theorem deltas_keep_sublist (onSide : Int → Bool) (candidates : List Candidate) :
    (deltas (keep onSide candidates)).Sublist (candidates.map (·.delta)) := by
  rw [deltas, keep, List.map_map]
  exact List.filter_sublist.map _

theorem onSide_of_mem_deltas_keep {onSide : Int → Bool} {candidates : List Candidate} {delta : Int}
    (isKept : delta ∈ deltas (keep onSide candidates)) : onSide delta = true := by
  rw [deltas, keep, List.map_map, List.mem_map] at isKept
  obtain ⟨candidate, isCandidate, rfl⟩ := isKept
  exact (Bool.and_eq_true_iff.mp (List.mem_filter.mp isCandidate).2).2

theorem keepBefore_eq (before after : List Candidate) (own : Candidate) :
    keepBefore before after own = keep (· < 0) (candidateLine before after own).reverse := by
  rw [keepBefore, candidateLine]
  simp

theorem keepAfter_eq (before after : List Candidate) (own : Candidate) :
    keepAfter before after own = keep (0 < ·) (candidateLine before after own) :=
  rfl

theorem deltas_keepBefore_sublist (before after : List Candidate) (own : Candidate) :
    (deltas (keepBefore before after own)).reverse.Sublist
      ((candidateLine before after own).map (·.delta)) := by
  have sublist := (deltas_keep_sublist (· < 0) (candidateLine before after own).reverse).reverse
  rwa [List.map_reverse, List.reverse_reverse, ← keepBefore_eq] at sublist

theorem deltas_keepAfter_sublist (before after : List Candidate) (own : Candidate) :
    (deltas (keepAfter before after own)).Sublist
      ((candidateLine before after own).map (·.delta)) := by
  rw [keepAfter_eq]
  exact deltas_keep_sublist (0 < ·) (candidateLine before after own)

/-- What is kept of candidates in output order is in output order, around the current picture. -/
theorem pairwise_line_keep {before after : List Candidate} {own : Candidate}
    (increasing : ((candidateLine before after own).map (·.delta)).Pairwise (· < ·))
    (prediction : Option SetPrediction) :
    (line ⟨prediction, keepBefore before after own, keepAfter before after own⟩).Pairwise
      (· < ·) := by
  have isNegative {delta : Int} (isBefore : delta ∈ deltas (keepBefore before after own)) :
      delta < 0 := by
    rw [keepBefore_eq] at isBefore
    exact of_decide_eq_true (onSide_of_mem_deltas_keep isBefore)
  have isPositive {delta : Int} (isAfter : delta ∈ deltas (keepAfter before after own)) :
      0 < delta := by
    rw [keepAfter_eq] at isAfter
    exact of_decide_eq_true (onSide_of_mem_deltas_keep isAfter)
  rw [line, List.pairwise_append, List.pairwise_cons]
  refine ⟨increasing.sublist (deltas_keepBefore_sublist before after own),
    ⟨fun delta isAfter => isPositive isAfter,
      increasing.sublist (deltas_keepAfter_sublist before after own)⟩,
    fun first isBefore second isBehind => ?_⟩
  have firstNegative := isNegative (List.mem_reverse.mp isBefore)
  rcases List.mem_cons.mp isBehind with rfl | isAfter
  · exact firstNegative
  · exact Int.lt_trans firstNegative (isPositive isAfter)

/-- Candidates in output order make an ordered set, if not too many of them are kept. -/
theorem ordered_keep {before after : List Candidate} {own : Candidate} {bound : Nat}
    {prediction : Option SetPrediction}
    (increasing : ((candidateLine before after own).map (·.delta)).Pairwise (· < ·))
    (delta_le : ∀ delta ∈ (candidateLine before after own).map (·.delta), delta.natAbs ≤ bound)
    (size_le : size ⟨prediction, keepBefore before after own, keepAfter before after own⟩ ≤
      maxPictures) :
    Ordered bound ⟨prediction, keepBefore before after own, keepAfter before after own⟩ := by
  constructor
  · exact pairwise_line_keep increasing prediction
  · exact size_le
  · intro delta isDelta
    rw [line, List.mem_append, List.mem_cons] at isDelta
    rcases isDelta with isBefore | rfl | isAfter
    · exact delta_le delta ((deltas_keepBefore_sublist before after own).subset isBefore)
    · exact Nat.zero_le bound
    · exact delta_le delta ((deltas_keepAfter_sublist before after own).subset isAfter)

theorem yields_candidateDecoder (delta : Int) :
    Yields (candidateDecoder delta) fun candidate => delta = candidate.delta := by
  refine Yields.behind fun used => ?_
  refine Yields.behind fun kept => ?_
  exact Yields.done rfl

/-- The candidates for the pictures of a set stand where those are shifted to. -/
theorem yields_each_candidates (pictures : List Int) :
    Yields (Decoder.each pictures candidateDecoder) fun candidates =>
      candidates.map (·.delta) = pictures := by
  refine (Yields.each yields_candidateDecoder pictures).weaken fun candidates related => ?_
  induction related with
  | nil => rfl
  | cons delta_eq _ inductionHypothesis =>
      rw [List.map_cons, inductionHypothesis, delta_eq]

/-- A set that is predicted from an ordered one is ordered, and its pictures are further away by no
more than the shift. -/
theorem Ordered.yields_predictedFrom {source : ShortTermSet} {bound : Nat}
    (ordered : source.Ordered bound) (prediction : SetPrediction) :
    Yields (predictedFrom source prediction) (Ordered (bound + prediction.shift.natAbs)) := by
  refine Yields.bind (yields_each_candidates _) fun before before_eq => ?_
  refine Yields.bind (yields_each_candidates _) fun after after_eq => ?_
  refine Yields.bind (yields_candidateDecoder _) fun own own_eq => ?_
  refine Yields.bind Yields.require fun _ size_le => ?_
  have line_eq := map_delta_candidateLine before_eq after_eq own_eq
  refine Yields.done (ordered_keep ?_ ?_ (of_decide_eq_true size_le))
  · rw [line_eq]
    exact ordered.increasing.map _ fun first second isBefore => Int.add_lt_add_right isBefore _
  · rw [line_eq]
    intro shifted isShifted
    obtain ⟨delta, isDelta, rfl⟩ := List.mem_map.mp isShifted
    have delta_le := ordered.delta_le delta isDelta
    omega

theorem mem_of_source? {sets : List ShortTermSet} {index distanceMinus1 : Nat}
    {source : ShortTermSet} (isSource : source? sets index distanceMinus1 = some source) :
    source ∈ sets := by
  rw [source?] at isSource
  split at isSource
  · exact List.mem_of_getElem? isSource
  · cases isSource

/-! ## Chains of sets -/

/-- There are `count` sets, and each is ordered, with distances that so many sets can reach. -/
structure Chain (count : Nat) (sets : List ShortTermSet) : Prop where
  length_eq : sets.length = count
  ordered : ∀ set ∈ sets, set.Ordered (deltaBound count)

theorem Chain.nil : Chain 0 [] where
  length_eq := rfl
  ordered := List.forall_mem_nil _

theorem Chain.append {count : Nat} {sets : List ShortTermSet} (chain : Chain count sets)
    {set : ShortTermSet} (isOrdered : set.Ordered (deltaBound (count + 1))) :
    Chain (count + 1) (sets ++ [set]) where
  length_eq := by rw [List.length_append, chain.length_eq, List.length_singleton]
  ordered := by
    rw [List.forall_mem_append, List.forall_mem_singleton]
    refine ⟨fun earlier isEarlier => ?_, isOrdered⟩
    exact (chain.ordered earlier isEarlier).weaken (deltaBound_mono (Nat.le_succ count))

/-- Behind a chain each set is ordered, and its distances go beyond those of the chain by one shift
at most. -/
theorem Chain.yields_decoder {count : Nat} {sets : List ShortTermSet} (chain : Chain count sets)
    (index total : Nat) : Yields (decoder sets index total) (Ordered (deltaBound (count + 1))) := by
  refine Yields.within ?_
  refine Yields.behind fun predicted => ?_
  split
  · refine Yields.behind fun distanceMinus1 => ?_
    split
    · exact Yields.abort
    · next source isSource =>
      refine Yields.behind fun negative => ?_
      refine Yields.bind yields_distanceDecoder fun distance isDistance => ?_
      have sourceOrdered := chain.ordered source (mem_of_source? isSource)
      refine (sourceOrdered.yields_predictedFrom _).weaken fun set isOrdered => ?_
      refine isOrdered.weaken ?_
      obtain ⟨minus1, inRange, rfl⟩ := isDistance
      simp only [deltaBound, maxDistance, maxDistanceMinus1] at inRange ⊢
      split
      · omega
      · omega
  · refine yields_explicitDecoder.weaken fun set explicit => ?_
    exact explicit.ordered.weaken (deltaBound_mono (Nat.zero_le _))

/-- The next set is added to a chain. -/
theorem Chain.yields_next {index : Nat} {sets : List ShortTermSet} (chain : Chain index sets)
    (total : Nat) :
    Yields ((decoder sets index total).bind fun set => Decoder.done (sets ++ [set]))
      (Chain (index + 1)) :=
  Yields.bind (chain.yields_decoder index total) fun _ isOrdered =>
    Yields.done (chain.append isOrdered)

/-- The sets of a sequence are a chain, however they are predicted from one another. -/
theorem yields_sequenceDecoder (total : Nat) : Yields (sequenceDecoder total) (Chain total) := by
  have folded : Yields (sequenceDecoder total) (Chain (0 + total)) :=
    Yields.foldFrom Chain (fun _ _ _ chain => chain.yields_next total) Chain.nil
  rwa [Nat.zero_add] at folded

end ShortTermSet

/-! ## Parameter sets and slices -/

namespace SequenceParameterSet

/-- The sets that a sequence parameter set lists are a chain of at most 64. -/
structure ShortTermChained (set : SequenceParameterSet) : Prop where
  length_le : set.shortTermSets.length ≤ 64
  chain : ShortTermSet.Chain set.shortTermSets.length set.shortTermSets

theorem yields_fields : Yields fields ShortTermChained := by
  rw [fields]
  -- Nothing is asked of the parts in front of the number of sets, nor of those behind the sets.
  iterate 22 refine Yields.behind fun _ => ?_
  refine Yields.bind Yields.boundedUnsigned fun count inRange => ?_
  refine Yields.bind (ShortTermSet.yields_sequenceDecoder count) fun shortTermSets chain => ?_
  iterate 7 refine Yields.behind fun _ => ?_
  obtain rfl := chain.length_eq
  exact Yields.done ⟨inRange, chain⟩

theorem yields_decoder : Yields decoder fun result => result.1.ShortTermChained := by
  refine Yields.behind fun header => ?_
  refine Yields.behind fun _ => ?_
  refine Yields.bind (Yields.within yields_fields) fun set chained => ?_
  split
  · exact Yields.done chained
  · exact Yields.behind fun _ => Yields.done chained

/-- Also a set that was decoded only up to its extensions lists a chain. -/
theorem shortTermChained_of_keepDecoded {unit : List UInt8} {set : SequenceParameterSet}
    (isDecoded : Interruption.keepDecoded (ofUnit unit) = .ok set) : set.ShortTermChained :=
  yields_decoder.of_keepDecoded isDecoded

end SequenceParameterSet

/-- The sequence parameter sets of a table list chains. -/
def ShortTermChainedTable (sequences : IdTable SequenceParameterSet) : Prop :=
  ∀ id set, sequences.get? id = some set → set.ShortTermChained

/-- A set that a slice codes itself is ordered. -/
def ShortTermChoice.OwnOrdered (choice : ShortTermChoice) : Prop :=
  ∀ set sizeInBits, choice = own set sizeInBits → set.Ordered (ShortTermSet.deltaBound 65)

theorem ShortTermChoice.yields_decoder {sequenceSet : SequenceParameterSet}
    (chained : sequenceSet.ShortTermChained) :
    Yields (decoder sequenceSet.shortTermSets) OwnOrdered := by
  refine Yields.behind fun isListed => ?_
  split
  · refine Yields.behind fun _ => ?_
    refine Yields.behind fun index => ?_
    refine Yields.behind fun _ => ?_
    exact Yields.done nofun
  · refine Yields.behind fun start => ?_
    refine Yields.bind (chained.chain.yields_decoder _ _) fun set isOrdered => ?_
    refine Yields.behind fun stop => Yields.done ?_
    rintro _ _ ⟨⟩
    exact isOrdered.weaken (ShortTermSet.deltaBound_mono (Nat.succ_le_succ chained.length_le))

theorem KeptPictures.yields_decoder {sequenceSet : SequenceParameterSet}
    (chained : sequenceSet.ShortTermChained) :
    Yields (decoder sequenceSet) fun kept => kept.shortTerm.OwnOrdered := by
  refine Yields.behind fun pictureOrderLowBits => ?_
  refine Yields.bind (ShortTermChoice.yields_decoder chained) fun shortTerm isOrdered => ?_
  dsimp only
  split
  · iterate 2 refine Yields.behind fun _ => ?_
    exact Yields.done isOrdered
  · iterate 2 refine Yields.behind fun _ => ?_
    exact Yields.done isOrdered

namespace SegmentStart

/-- A picture parameter set that is found is the one of the table. -/
theorem yields_findPictureSet (pictures : IdTable PictureParameterSet) (id : Nat) :
    Yields (findPictureSet pictures id) (pictures.get? id = some ·) := by
  unfold findPictureSet
  split
  · next set isListed => exact Yields.done isListed
  · exact Yields.abort

/-- A sequence parameter set that is found is the one of the table. -/
theorem yields_findSequenceSet (sequences : IdTable SequenceParameterSet) (id : Nat) :
    Yields (findSequenceSet sequences id) (sequences.get? id = some ·) := by
  unfold findSequenceSet
  split
  · next set isListed => exact Yields.done isListed
  · exact Yields.abort

/-- A slice refers to a sequence parameter set of the table. -/
theorem yields_decoder {sequences : IdTable SequenceParameterSet}
    (chained : ShortTermChainedTable sequences) (pictures : IdTable PictureParameterSet)
    (unit : NalHeader) :
    Yields (decoder sequences pictures unit) fun referring =>
      referring.sequenceSet.ShortTermChained := by
  iterate 4 refine Yields.behind fun _ => ?_
  refine Yields.bind (yields_findSequenceSet sequences _) fun sequenceSet isListed => ?_
  iterate 4 refine Yields.behind fun _ => ?_
  exact Yields.done (chained _ sequenceSet isListed)

end SegmentStart

namespace SliceHeader

variable {sequences : IdTable SequenceParameterSet} (chained : ShortTermChainedTable sequences)
  (pictures : IdTable PictureParameterSet)

theorem yields_sliceFieldsDecoder (unit : NalHeader) {referring : ReferringStart}
    (isChained : referring.sequenceSet.ShortTermChained) :
    Yields (sliceFieldsDecoder unit referring) fun fields => fields.kept.shortTerm.OwnOrdered := by
  rw [sliceFieldsDecoder]
  split
  · exact Yields.done nofun
  · have kept := KeptPictures.yields_decoder isChained
    iterate 2 refine Yields.behind fun _ => ?_
    refine Yields.bind (Yields.whenElse kept nofun) fun kept isOrdered => ?_
    iterate 9 refine Yields.behind fun _ => ?_
    exact Yields.done isOrdered

include chained in
theorem yields_decoder :
    Yields (decoder sequences pictures) fun header => header.fields.kept.shortTerm.OwnOrdered := by
  refine Yields.behind fun unit => ?_
  refine Yields.within ?_
  refine Yields.behind fun origin => ?_
  refine Yields.bind (SegmentStart.yields_decoder chained pictures unit) fun referring isChained => ?_
  refine Yields.behind fun _ => ?_
  refine Yields.bind (yields_sliceFieldsDecoder unit isChained) fun fields isOrdered => ?_
  iterate 4 refine Yields.behind fun _ => ?_
  exact Yields.done isOrdered

end SliceHeader

namespace SliceSegment

variable {sequences : IdTable SequenceParameterSet} {pictures : IdTable PictureParameterSet}

/-- The header of a decoded segment meets what its grammar yields. -/
theorem header_of_ofUnit {condition : SliceHeader → Prop}
    (yields : Yields (SliceHeader.decoder sequences pictures) condition) {unit : List UInt8}
    {segment : SliceSegment} (isDecoded : ofUnit sequences pictures unit = .ok segment) :
    condition segment.header := by
  rw [ofUnit, Staged.onUnit, Staged.decode_bind_apply] at isDecoded
  rcases run_eq : (SliceHeader.decoder sequences pictures).run (EscapedReader.ofUnit unit) with
    ⟨error | header, last⟩
  · rw [run_eq] at isDecoded
    cases isDecoded
  · rw [run_eq] at isDecoded
    cases isDecoded
    exact yields.of_run _ _ _ run_eq

/-- A set that a decoded slice codes itself is ordered, if the sets that it can be predicted from
are chains. -/
theorem ownOrdered_of_ofUnit (chained : ShortTermChainedTable sequences) {unit : List UInt8}
    {segment : SliceSegment} (isDecoded : ofUnit sequences pictures unit = .ok segment) :
    segment.header.fields.kept.shortTerm.OwnOrdered :=
  header_of_ofUnit (SliceHeader.yields_decoder chained pictures) isDecoded

end SliceSegment

end CodedVideo.Hevc
