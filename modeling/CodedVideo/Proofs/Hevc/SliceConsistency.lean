import CodedVideo.Proofs.Hevc.SliceConfinement
import CodedVideo.Proofs.Hevc.SliceReadBack

/-!
# Decoded HEVC slice segment headers agree with their parameter sets

Whatever unit a slice segment header is decoded from, it agrees with the parameter sets that it
names, if those were decoded from units too: places lie within what they point into, counts are
those of the lists that they count, lists have the lengths that their counts ask for, and a
dependent segment has the fields that its picture parameter set gives.

Main statement: `SliceSegment.agreesWith_of_ofUnit`.
-/

namespace CodedVideo.Hevc

open Decoder (Yields)

/-! ## What parameter sets give -/

/-- The numbers of reference pictures that the set gives are those of at most 15 pictures. -/
structure PictureParameterSet.BoundsActive (set : PictureParameterSet) : Prop where
  defaultActiveList0Minus1_le : set.defaultActiveList0Minus1 ≤ 14
  defaultActiveList1Minus1_le : set.defaultActiveList1Minus1 ≤ 14

theorem PictureParameterSet.yields_boundsActive : Yields fields BoundsActive := by
  rw [fields]
  -- Nothing is asked of the parts in front of the two numbers, nor of those behind them.
  iterate 7 refine Yields.behind fun _ => ?_
  refine Yields.bind Yields.boundedUnsigned fun defaultActiveList0Minus1 list0_le => ?_
  refine Yields.bind Yields.boundedUnsigned fun defaultActiveList1Minus1 list1_le => ?_
  iterate 24 refine Yields.behind fun _ => ?_
  exact Yields.done ⟨list0_le, list1_le⟩

theorem DecodedPictureTable.boundsActive {pictures : IdTable PictureParameterSet}
    (picturesDecoded : DecodedPictureTable pictures) {id : Nat} {set : PictureParameterSet}
    (isListed : pictures.get? id = some set) : set.BoundsActive := by
  obtain ⟨unit, unitDecoded⟩ := picturesDecoded id set isListed
  exact PictureParameterSet.of_keepDecoded PictureParameterSet.yields_boundsActive unitDecoded

/-! ## The start of a segment -/

namespace SegmentStart

theorem yields_addressDecoder (size : Nat) : Yields (addressDecoder size) (· < size) := by
  refine Yields.behind fun address => ?_
  refine Yields.bind Yields.require fun _ isBelow => ?_
  exact Yields.done (of_decide_eq_true isBelow)

/-- A segment names sets of the tables, and its start is consistent with them. -/
theorem yields_consistent (sequences : IdTable SequenceParameterSet)
    (pictures : IdTable PictureParameterSet) (unit : NalHeader) :
    Yields (decoder sequences pictures unit) fun referring =>
      pictures.get? referring.start.pictureSetId = some referring.pictureSet ∧
        sequences.get? referring.pictureSet.sequenceId = some referring.sequenceSet ∧
        referring.start.ConsistentWith unit.unitType referring.pictureSet
          referring.sequenceSet := by
  refine Yields.behind fun isFirst => ?_
  refine Yields.bind Yields.whenElse_absent fun noOutputOfPriorPictures noOutput => ?_
  refine Yields.behind fun pictureSetId => ?_
  refine Yields.bind (yields_findPictureSet pictures pictureSetId) fun pictureSet hasPictureSet => ?_
  refine Yields.bind (yields_findSequenceSet sequences _) fun sequenceSet hasSequenceSet => ?_
  refine Yields.bind Yields.whenElse_absent fun dependent notDependent => ?_
  refine Yields.bind (Yields.whenElse_cases (yields_addressDecoder _))
    fun address addressHolds => ?_
  refine Yields.bind Yields.whenElse_absent fun reservedFlags noFlags => ?_
  refine Yields.bind Yields.optional_isSome fun sliceType isSome_eq => ?_
  have isDependent_eq : sliceType.isNone = dependent := by
    rw [← Option.not_isSome, isSome_eq, Bool.not_not]
  refine Yields.done ⟨hasPictureSet, hasSequenceSet, ?_⟩
  exact {
    noOutputOfPriorPictures := noOutput
    dependent := fun notCoded => isDependent_eq.trans (notDependent notCoded)
    firstAddress := fun first => addressHolds.2 (congrArg not first)
    address_lt := fun notFirst => addressHolds.1 (congrArg not notFirst)
    reservedFlags := fun isDependent =>
      noFlags (congrArg not (isDependent_eq.symm.trans isDependent)) }

end SegmentStart

/-! ## Kept pictures -/

/-- The reference is the picture at its place among the candidates. -/
def LongTermReference.IsChosenFrom (reference : LongTermReference)
    (candidates : List LongTermCandidate) : Prop :=
  ∃ index, reference.candidateIndex = some index ∧ candidates[index]? = some reference.picture

/-- The pictures that are chosen from the candidates come first, and are no more than there are
candidates. -/
structure KeptPictures.LongTermFrom (kept : KeptPictures) (candidates : List LongTermCandidate) :
    Prop where
  longTerm_eq : kept.longTerm = kept.chosenLongTerm ++ kept.codedLongTerm
  chosen_le : kept.chosenLongTerm.length ≤ candidates.length
  chosen : ∀ reference ∈ kept.chosenLongTerm, reference.IsChosenFrom candidates

/-- A set of the sequence is there where it is chosen, and there are at most 32 long-term
pictures. -/
structure KeptPictures.AgreesWith (kept : KeptPictures) (sequenceSet : SequenceParameterSet) :
    Prop where
  shortTerm : ∀ index, kept.shortTerm = .ofSequence index →
    index < sequenceSet.shortTermSets.length
  noLongTerm : sequenceSet.longTermCandidates = none → kept.longTerm = []
  longTerm : ∀ candidates ∈ sequenceSet.longTermCandidates, kept.LongTermFrom candidates
  longTerm_length_le : kept.longTerm.length ≤ 32

theorem ShortTermChoice.yields_inRange (sets : List ShortTermSet) :
    Yields (decoder sets) fun choice => ∀ index, choice = .ofSequence index →
      index < sets.length := by
  refine Yields.behind fun isListed => ?_
  split
  · refine Yields.behind fun _ => ?_
    refine Yields.behind fun index => ?_
    refine Yields.bind Yields.require fun _ isBelow => Yields.done ?_
    rintro _ ⟨⟩
    exact of_decide_eq_true isBelow
  · iterate 3 refine Yields.behind fun _ => ?_
    exact Yields.done nofun

namespace LongTermReference

theorem yields_chosenDecoder (candidates : List LongTermCandidate) :
    Yields (chosenDecoder candidates) (·.IsChosenFrom candidates) := by
  refine Yields.behind fun index => ?_
  split
  · exact Yields.abort
  · next picture isListed =>
    exact Yields.behind fun highBitsDelta => Yields.done ⟨index, rfl, isListed⟩

theorem yields_codedDecoder (width : Nat) :
    Yields (codedDecoder width) (·.candidateIndex = none) :=
  Yields.behind fun _ => Yields.behind fun _ => Yields.done rfl

/-- The pictures that are chosen from the candidates stand in front of the others. -/
theorem yields_parts (width : Nat) (candidates : List LongTermCandidate) :
    Yields (listDecoder width candidates) fun references =>
      ∃ chosen coded, references = chosen ++ coded ∧ chosen.length ≤ candidates.length ∧
        (∀ reference ∈ chosen, reference.IsChosenFrom candidates) ∧
        ∀ reference ∈ coded, reference.candidateIndex = none := by
  refine Yields.bind (Yields.whenElse Yields.boundedUnsigned (Nat.zero_le _))
    fun chosenCount chosen_le => ?_
  refine Yields.behind fun codedCount => ?_
  refine Yields.bind (Yields.replicate_all chosenCount (yields_chosenDecoder candidates))
    fun chosen areChosen => ?_
  refine Yields.bind (Yields.replicate_all codedCount (yields_codedDecoder width))
    fun coded areCoded => ?_
  exact Yields.done ⟨chosen, coded, rfl, areChosen.1 ▸ chosen_le, areChosen.2, areCoded.2⟩

end LongTermReference

namespace KeptPictures

/-- Where chosen pictures stand in front of coded ones, they are told apart. -/
theorem LongTermFrom.of_parts {kept : KeptPictures} {candidates : List LongTermCandidate}
    {chosen coded : List LongTermReference} (longTerm_eq : kept.longTerm = chosen ++ coded)
    (chosen_le : chosen.length ≤ candidates.length)
    (areChosen : ∀ reference ∈ chosen, reference.IsChosenFrom candidates)
    (areCoded : ∀ reference ∈ coded, reference.candidateIndex = none) :
    kept.LongTermFrom candidates := by
  have allChosen : ∀ reference ∈ chosen, reference.candidateIndex.isSome = true := by
    intro reference isChosen
    obtain ⟨index, index_eq, -⟩ := areChosen reference isChosen
    exact Option.isSome_of_eq_some index_eq
  have noneChosen : ∀ reference ∈ coded, ¬ reference.candidateIndex.isSome = true := by
    intro reference isCoded
    rw [areCoded reference isCoded]
    exact Bool.false_ne_true
  have chosen_eq : kept.chosenLongTerm = chosen := by
    rw [chosenLongTerm, longTerm_eq, List.filter_append, List.filter_eq_self.mpr allChosen,
      List.filter_eq_nil_iff.mpr noneChosen, List.append_nil]
  have coded_eq : kept.codedLongTerm = coded := by
    have allCoded : ∀ reference ∈ coded, reference.candidateIndex.isNone = true :=
      fun reference isCoded => Option.isNone_iff_eq_none.mpr (areCoded reference isCoded)
    have noneCoded : ∀ reference ∈ chosen, ¬ reference.candidateIndex.isNone = true :=
      fun reference isChosen isNone => by
        have isSome := allChosen reference isChosen
        rw [Option.isNone_iff_eq_none.mp isNone] at isSome
        contradiction
    rw [codedLongTerm, longTerm_eq, List.filter_append, List.filter_eq_nil_iff.mpr noneCoded,
      List.filter_eq_self.mpr allCoded, List.nil_append]
  constructor
  · rw [chosen_eq, coded_eq, longTerm_eq]
  · rw [chosen_eq]
    exact chosen_le
  · rw [chosen_eq]
    exact areChosen

theorem agreesWith_refresh (sequenceSet : SequenceParameterSet) :
    ({} : KeptPictures).AgreesWith sequenceSet where
  shortTerm := nofun
  noLongTerm _ := rfl
  longTerm _ _ := ⟨rfl, Nat.zero_le _, List.forall_mem_nil _⟩
  longTerm_length_le := Nat.zero_le 32

theorem yields_agreesWith (sequenceSet : SequenceParameterSet) [sequenceSet.BoundsWidths] :
    Yields (decoder sequenceSet) (·.AgreesWith sequenceSet) := by
  -- That the long-term pictures are few enough is known of the decoder as a whole.
  have agrees : Yields (decoder sequenceSet) fun kept =>
      kept.longTerm.length ≤ 32 → kept.AgreesWith sequenceSet := by
    refine Yields.behind fun pictureOrderLowBits => ?_
    refine Yields.bind (ShortTermChoice.yields_inRange _) fun shortTerm inRange => ?_
    dsimp only
    -- The grammar branches here, and each branch goes on to the end.
    split
    · next candidates_eq =>
      have noneListed : Yields (Decoder.done ([] : List LongTermReference)) (· = []) :=
        Yields.done rfl
      refine Yields.bind noneListed fun longTerm longTerm_eq => ?_
      refine Yields.behind fun _ => Yields.done fun length_le => ?_
      refine ⟨inRange, fun _ => longTerm_eq, ?_, length_le⟩
      intro given isGiven
      cases candidates_eq.symm.trans isGiven
    · next candidates candidates_eq =>
      refine Yields.bind (LongTermReference.yields_parts _ candidates) fun longTerm parts => ?_
      refine Yields.behind fun _ => Yields.done fun length_le => ?_
      obtain ⟨chosen, coded, longTerm_eq, chosen_le, areChosen, areCoded⟩ := parts
      refine ⟨inRange, ?_, ?_, length_le⟩
      · intro noCandidates
        cases candidates_eq.symm.trans noCandidates
      · intro given isGiven
        cases candidates_eq.symm.trans isGiven
        exact LongTermFrom.of_parts longTerm_eq chosen_le areChosen areCoded
  exact (agrees.and (yields_longTerm sequenceSet)).weaken fun _ holds => holds.1 holds.2

end KeptPictures

/-! ## Pictures in use -/

/-- The places in lists that are modified can be coded where `usedCount` pictures can be used. -/
def ListModification.PlacesBelow (modification : ListModification) (usedCount : Nat) : Prop :=
  ∀ list ∈ [modification.list0, modification.list1], ∀ places ∈ list,
    ∀ place ∈ places, place < 1 <<< ceilLog2 usedCount

/-- At most 15 pictures of each list are in use, lists that are modified and weights are those of
the pictures in use, and only a slice with two lists says anything of the second one. -/
structure InterFields.AgreesWith (inter : InterFields) (chromaCoded : Bool) (usedCount : Nat)
    (bidirectional : Bool) : Prop where
  list0Minus1_le : inter.active.list0Minus1 ≤ 14
  list1Minus1_le : inter.active.list1Minus1 ≤ 14
  modification : ∀ modification ∈ inter.modification,
    modification.ConsistentWith inter.active bidirectional ∧ modification.PlacesBelow usedCount
  weights : ∀ weights ∈ inter.weights,
    weights.ConsistentWith chromaCoded bidirectional inter.active

theorem ActiveReferences.yields_le {pictureSet : PictureParameterSet}
    (bounds : pictureSet.BoundsActive) (bidirectional : Bool) :
    Yields (decoder pictureSet bidirectional) fun active =>
      active.list0Minus1 ≤ 14 ∧ active.list1Minus1 ≤ 14 := by
  refine Yields.behind fun overridden => ?_
  split
  · refine Yields.bind Yields.boundedUnsigned fun list0Minus1 list0_le => ?_
    refine Yields.bind (Yields.whenElse Yields.boundedUnsigned bounds.defaultActiveList1Minus1_le)
      fun list1Minus1 list1_le => ?_
    exact Yields.done ⟨list0_le, list1_le⟩
  · exact Yields.done ⟨bounds.defaultActiveList0Minus1_le, bounds.defaultActiveList1Minus1_le⟩

namespace ListModification

theorem yields_entriesDecoder (activeMinus1 width : Nat) :
    Yields (entriesDecoder activeMinus1 width) fun list => ∀ places ∈ list,
      places.length = activeMinus1 + 1 ∧ ∀ place ∈ places, place < 1 <<< width :=
  Yields.behind fun _ =>
    Yields.optional (Yields.replicate_all (activeMinus1 + 1) (Yields.bits width))

theorem yields_agreesWith (active : ActiveReferences) (usedCount : Nat) (bidirectional : Bool) :
    Yields (decoder active usedCount bidirectional) fun modification =>
      modification.ConsistentWith active bidirectional ∧ modification.PlacesBelow usedCount := by
  refine Yields.bind (yields_entriesDecoder _ _) fun list0 list0Holds => ?_
  refine Yields.bind (Yields.whenElse_absent.and (Yields.whenElse (yields_entriesDecoder _ _) nofun))
    fun list1 list1Holds => Yields.done ⟨?_, ?_⟩
  · exact ⟨fun places isThere => (list0Holds places isThere).1,
      fun places isThere => (list1Holds.2 places isThere).1, list1Holds.1⟩
  · simp only [PlacesBelow, List.forall_mem_cons]
    exact ⟨fun places isThere => (list0Holds places isThere).2,
      fun places isThere => (list1Holds.2 places isThere).2, List.forall_mem_nil _⟩

end ListModification

namespace WeightTable

theorem yields_weightDecoder (present : Bool × Bool) :
    Yields (weightDecoder present) fun weight => present.2 = false → weight.chroma = none := by
  refine Yields.behind fun luma => ?_
  refine Yields.bind Yields.optional_isSome fun chroma isSome_eq => Yields.done fun notPresent => ?_
  exact Option.isNone_iff_eq_none.mp (Option.isSome_eq_false_iff.mp (isSome_eq.trans notPresent))

theorem yields_listDecoder (chromaCoded : Bool) (count : Nat) :
    Yields (listDecoder chromaCoded count) fun weights => weights.length = count ∧
      ∀ weight ∈ weights, chromaCoded = false → weight.chroma = none := by
  refine Yields.bind (Yields.replicate count _) fun lumaPresent luma_length => ?_
  refine Yields.bind (Yields.replicate_all count Yields.whenElse_absent)
    fun chromaPresent chromaHolds => ?_
  have weightHolds : ∀ present ∈ lumaPresent.zip chromaPresent,
      Yields (weightDecoder present) fun weight => chromaCoded = false → weight.chroma = none := by
    intro present isPresent
    refine (yields_weightDecoder present).weaken fun weight holds notCoded => holds ?_
    exact chromaHolds.2 present.2 (List.of_mem_zip isPresent).2 notCoded
  refine (Yields.each_all weightHolds).weaken fun weights holds => ⟨?_, holds.2⟩
  rw [holds.1, List.length_zip, luma_length, chromaHolds.1, Nat.min_self]

theorem yields_consistent (chromaCoded bidirectional : Bool) (active : ActiveReferences) :
    Yields (decoder chromaCoded bidirectional active)
      (·.ConsistentWith chromaCoded bidirectional active) := by
  refine Yields.behind fun lumaLog2Denominator => ?_
  refine Yields.bind Yields.whenElse_absent fun difference noDifference => ?_
  refine Yields.bind (yields_listDecoder _ _) fun list0 list0Holds => ?_
  refine Yields.bind (Yields.whenElse_cases (yields_listDecoder _ _))
    fun list1 list1Holds => Yields.done ?_
  have list1NoChroma : ∀ weight ∈ list1, chromaCoded = false → weight.chroma = none := by
    cases isThere : bidirectional with
    | true => exact (list1Holds.1 isThere).2
    | false =>
        rw [list1Holds.2 isThere]
        exact List.forall_mem_nil _
  exact {
    chromaLog2Denominator := fun notCoded => by
      rw [noDifference notCoded, Int.add_zero]
    list0_length := list0Holds.1
    list1_length := fun isThere => (list1Holds.1 isThere).1
    noList1 := list1Holds.2
    noChroma := fun notCoded => List.forall_mem_append.mpr
      ⟨fun weight isWeight => list0Holds.2 weight isWeight notCoded,
        fun weight isWeight => list1NoChroma weight isWeight notCoded⟩ }

end WeightTable

namespace InterFields

theorem yields_agreesWith {referring : ReferringStart} (bounds : referring.pictureSet.BoundsActive)
    (sliceType : SliceType) (kept : KeptPictures) :
    Yields (decoder referring sliceType kept) (·.AgreesWith
      (referring.sequenceSet.codedChroma != 0)
      (kept.usedCount referring.sequenceSet.shortTermSets) sliceType.isBidirectional) := by
  refine Yields.bind (ActiveReferences.yields_le bounds _) fun active active_le => ?_
  refine Yields.bind (Yields.optional (ListModification.yields_agreesWith active _ _))
    fun modification modificationAgrees => ?_
  iterate 3 refine Yields.behind fun _ => ?_
  refine Yields.bind (Yields.optional (WeightTable.yields_consistent _ _ active))
    fun weights weightsConsistent => ?_
  exact Yields.behind fun _ =>
    Yields.done ⟨active_le.1, active_le.2, modificationAgrees, weightsConsistent⟩

theorem agreesWith_inherited {pictureSet : PictureParameterSet} (bounds : pictureSet.BoundsActive)
    (chromaCoded : Bool) (usedCount : Nat) (bidirectional : Bool) :
    (inherited pictureSet).AgreesWith chromaCoded usedCount bidirectional where
  list0Minus1_le := bounds.defaultActiveList0Minus1_le
  list1Minus1_le := bounds.defaultActiveList1Minus1_le
  modification := nofun
  weights := nofun

end InterFields

/-! ## The whole header -/

/-- The fields of a slice say what the pictures that are kept give, of which a slice may use at most
48. -/
structure SliceFields.AgreesWith (fields : SliceFields) (sequenceSet : SequenceParameterSet)
    (bidirectional : Bool) : Prop where
  kept : fields.kept.AgreesWith sequenceSet
  usedPictureCount_eq :
    fields.usedPictureCount = fields.kept.usedCount sequenceSet.shortTermSets
  usedPictureCount_le : fields.usedPictureCount ≤ 48
  inter : fields.inter.AgreesWith (sequenceSet.codedChroma != 0) fields.usedPictureCount
    bidirectional

/-- The header agrees with the parameter sets. Its entry points are fewer than the coding tree
blocks of the picture and fit the length that is given for them, and a dependent segment has the
fields that the picture parameter set gives. -/
structure SliceHeader.AgreesWith (header : SliceHeader) (pictureSet : PictureParameterSet)
    (sequenceSet : SequenceParameterSet) : Prop where
  start : header.start.ConsistentWith header.unit.unitType pictureSet sequenceSet
  dependent : header.start.isDependent = true → header.fields = .inherited pictureSet
  fields : header.fields.AgreesWith sequenceSet (header.start.sliceType.any (·.isBidirectional))
  entryPoints : header.entryPoints.ConsistentWith sequenceSet.sizeInTreeBlocks
  offsets_lt : ∀ offset ∈ header.entryPoints.offsetsMinus1,
    offset < 1 <<< (header.entryPoints.offsetLengthMinus1 + 1)

namespace SliceFields

theorem agreesWith_inherited {pictureSet : PictureParameterSet} (bounds : pictureSet.BoundsActive)
    (sequenceSet : SequenceParameterSet) (bidirectional : Bool) :
    (inherited pictureSet).AgreesWith sequenceSet bidirectional where
  kept := KeptPictures.agreesWith_refresh sequenceSet
  usedPictureCount_eq := rfl
  usedPictureCount_le := Nat.zero_le 48
  inter := InterFields.agreesWith_inherited bounds _ _ _

theorem yields_agreesWith {referring : ReferringStart} (bounds : referring.pictureSet.BoundsActive)
    [referring.sequenceSet.BoundsWidths] (unitType : NalUnitType) (sliceType : SliceType) :
    Yields (decoder unitType referring sliceType)
      (·.AgreesWith referring.sequenceSet sliceType.isBidirectional) := by
  have keptYields := (KeptPictures.yields_agreesWith referring.sequenceSet).and
    (KeptPictures.yields_usedCount_le referring.sequenceSet)
  iterate 2 refine Yields.behind fun _ => ?_
  refine Yields.bind (Yields.whenElse keptYields
    ⟨KeptPictures.agreesWith_refresh _, Nat.zero_le 48⟩) fun kept keptHolds => ?_
  iterate 2 refine Yields.behind fun _ => ?_
  refine Yields.bind (Yields.whenElse (InterFields.yields_agreesWith bounds sliceType kept)
    (InterFields.agreesWith_inherited bounds _ _ _)) fun inter interAgrees => ?_
  iterate 6 refine Yields.behind fun _ => ?_
  exact Yields.done ⟨keptHolds.1, rfl, keptHolds.2, interAgrees⟩

end SliceFields

namespace EntryPoints

theorem consistentWith_none (size : Nat) : ({} : EntryPoints).ConsistentWith size where
  length_lt := Nat.le_max_right size 1
  noOffsets _ := rfl
  offsetLengthMinus1_le := Nat.zero_le 31

theorem yields_agreesWith (size : Nat) :
    Yields (decoder size) fun points => points.ConsistentWith size ∧
      ∀ offset ∈ points.offsetsMinus1, offset < 1 <<< (points.offsetLengthMinus1 + 1) := by
  refine Yields.behind fun count => ?_
  refine Yields.bind Yields.require fun _ isBelow => ?_
  split
  · exact Yields.done ⟨consistentWith_none size, List.forall_mem_nil _⟩
  · next notZero =>
    -- A length is coded here only, so it is the standard one where there are no offsets.
    refine Yields.bind Yields.boundedUnsigned fun offsetLengthMinus1 length_le => ?_
    refine Yields.bind (Yields.replicate_all count (Yields.bits _)) fun offsets holds => ?_
    refine Yields.done ⟨⟨?_, ?_, length_le⟩, holds.2⟩
    · exact holds.1 ▸ of_decide_eq_true isBelow
    · rintro rfl
      exact absurd holds.1.symm notZero

end EntryPoints

namespace SliceHeader

theorem yields_sliceFields_agreesWith {referring : ReferringStart}
    (bounds : referring.pictureSet.BoundsActive) [referring.sequenceSet.BoundsWidths]
    (unit : NalHeader) :
    Yields (sliceFieldsDecoder unit referring) fun fields =>
      (referring.start.isDependent = true → fields = .inherited referring.pictureSet) ∧
        fields.AgreesWith referring.sequenceSet
          (referring.start.sliceType.any (·.isBidirectional)) := by
  unfold sliceFieldsDecoder
  cases sliceType_eq : referring.start.sliceType with
  | none => exact Yields.done ⟨fun _ => rfl, SliceFields.agreesWith_inherited bounds _ _⟩
  | some sliceType =>
      refine (SliceFields.yields_agreesWith bounds unit.unitType sliceType).weaken
        fun fields agrees => ⟨fun isDependent => ?_, agrees⟩
      rw [SegmentStart.isDependent, sliceType_eq] at isDependent
      contradiction

variable {sequences : IdTable SequenceParameterSet} {pictures : IdTable PictureParameterSet}

theorem yields_agreesWith (sequencesDecoded : DecodedTable sequences)
    (picturesDecoded : DecodedPictureTable pictures) :
    Yields (decoder sequences pictures) fun header => ∃ pictureSet sequenceSet,
      pictures.get? header.start.pictureSetId = some pictureSet ∧
        sequences.get? pictureSet.sequenceId = some sequenceSet ∧
        header.AgreesWith pictureSet sequenceSet := by
  refine Yields.behind fun unit => ?_
  refine Yields.within ?_
  refine Yields.behind fun origin => ?_
  refine Yields.bind (SegmentStart.yields_consistent sequences pictures unit) fun referring named => ?_
  obtain ⟨hasPictureSet, hasSequenceSet, startConsistent⟩ := named
  have bounds := picturesDecoded.boundsActive hasPictureSet
  have widths := sequencesDecoded.boundsWidths hasSequenceSet
  refine Yields.behind fun _ => ?_
  refine Yields.bind (yields_sliceFields_agreesWith bounds unit) fun fields fieldsAgree => ?_
  refine Yields.bind (Yields.whenElse (EntryPoints.yields_agreesWith _)
    ⟨EntryPoints.consistentWith_none _, List.forall_mem_nil _⟩) fun entryPoints pointsAgree => ?_
  iterate 3 refine Yields.behind fun _ => ?_
  exact Yields.done ⟨referring.pictureSet, referring.sequenceSet, hasPictureSet, hasSequenceSet,
    startConsistent, fieldsAgree.1, fieldsAgree.2, pointsAgree.1, pointsAgree.2⟩

end SliceHeader

namespace SliceSegment

variable {sequences : IdTable SequenceParameterSet} {pictures : IdTable PictureParameterSet}

/-- A decoded segment names parameter sets of the tables and agrees with them, if the sets of the
tables were decoded, at least up to their extensions. -/
theorem agreesWith_of_ofUnit (sequencesDecoded : DecodedTable sequences)
    (picturesDecoded : DecodedPictureTable pictures) {unit : List UInt8} {segment : SliceSegment}
    (isDecoded : ofUnit sequences pictures unit = .ok segment) :
    ∃ pictureSet sequenceSet,
      pictures.get? segment.header.start.pictureSetId = some pictureSet ∧
        sequences.get? pictureSet.sequenceId = some sequenceSet ∧
        segment.header.AgreesWith pictureSet sequenceSet :=
  header_of_ofUnit (SliceHeader.yields_agreesWith sequencesDecoded picturesDecoded) isDecoded

/-! ### An independent and a dependent segment -/

/-- The table with the rich sequence parameter set. -/
def richSequences : IdTable SequenceParameterSet :=
  tableOf (·.id) <| SequenceParameterSet.ofUnit
    [0x42, 0x01, 0x01, 0x01, 0x60, 0x00, 0x00, 0x03, 0x00, 0x00, 0x03, 0x00, 0x00, 0x03, 0x00, 0x00,
      0x03, 0x00, 0x78, 0xa0, 0x03, 0xc0, 0x80, 0x10, 0xe5, 0x96, 0x57, 0x92, 0x4d, 0x92, 0xf6, 0x23,
      0xc8, 0x64]

/-- The table with the rich picture parameter set. -/
def richPictures : IdTable PictureParameterSet :=
  tableOf (·.id) <| PictureParameterSet.ofUnit [0x44, 0x01, 0xf4, 0xf1, 0xd4, 0xbf, 0x6e, 0x80]

/-- The unit of the rich header. -/
def richUnit : List UInt8 :=
  [0x02, 0x01, 0x46, 0x4b, 0x09, 0x1a, 0xd1, 0x52, 0x18, 0xf7, 0xab, 0x87, 0x47, 0x72, 0x61, 0x24,
    0x08, 0xd1, 0x16, 0x9c, 0x47, 0x45, 0x83, 0xaa, 0x55, 0x80, 0xa0]

/-- The unit of a dependent segment at the end of the picture. -/
def dependentUnit : List UInt8 :=
  [0x02, 0x01, 0x7f, 0xde, 0xa0]

/-- The header of the segment is the rich one, which so agrees with its parameter sets, and the
dependent segment has the fields that they give. -/
theorem agreesWith_of_ofUnit_samples :
    (∃ segment pictureSet sequenceSet,
      ofUnit richSequences richPictures richUnit = .ok segment ∧
        segment.header = richHeader ∧ richPictures.get? 0 = some pictureSet ∧
        richSequences.get? pictureSet.sequenceId = some sequenceSet ∧
        richHeader.AgreesWith pictureSet sequenceSet) ∧
      ∃ segment pictureSet, ofUnit richSequences richPictures dependentUnit = .ok segment ∧
        segment.header.start.address = 509 ∧ segment.header.fields = .inherited pictureSet := by
  have sequencesDecoded : DecodedTable richSequences :=
    fun _ _ isListed => ⟨_, keepDecoded_of_tableOf isListed⟩
  have picturesDecoded : DecodedPictureTable richPictures :=
    fun _ _ isListed => ⟨_, keepDecoded_of_tableOf isListed⟩
  constructor
  · have isAccepted :
        (ofUnit richSequences richPictures richUnit).toOption.map (·.header) = some richHeader := by
      decide +kernel
    cases isDecoded : ofUnit richSequences richPictures richUnit with
    | error error =>
        rw [isDecoded] at isAccepted
        contradiction
    | ok segment =>
        rw [isDecoded] at isAccepted
        have header_eq : segment.header = richHeader := Option.some.inj isAccepted
        obtain ⟨pictureSet, sequenceSet, hasPictureSet, hasSequenceSet, agrees⟩ :=
          agreesWith_of_ofUnit sequencesDecoded picturesDecoded isDecoded
        rw [header_eq] at hasPictureSet agrees
        exact ⟨segment, pictureSet, sequenceSet, rfl, header_eq, hasPictureSet, hasSequenceSet,
          agrees⟩
  · have isAccepted :
        (ofUnit richSequences richPictures dependentUnit).toOption.map (fun segment =>
          (segment.header.start.address, segment.header.start.isDependent)) = some (509, true) := by
      decide +kernel
    cases isDecoded : ofUnit richSequences richPictures dependentUnit with
    | error error =>
        rw [isDecoded] at isAccepted
        contradiction
    | ok segment =>
        rw [isDecoded] at isAccepted
        obtain ⟨address_eq, isDependent⟩ := Prod.mk.inj (Option.some.inj isAccepted)
        obtain ⟨pictureSet, _, _, _, agrees⟩ :=
          agreesWith_of_ofUnit sequencesDecoded picturesDecoded isDecoded
        exact ⟨segment, pictureSet, rfl, address_eq, agrees.dependent isDependent⟩

end SliceSegment

end CodedVideo.Hevc
