import CodedVideo.Proofs.Hevc.DecodedSets
import CodedVideo.Proofs.Hevc.SetConfinement
import CodedVideo.Proofs.Hevc.ShortTermArrays

/-!
# HEVC slice segment headers stay within a unit

Many fields of a slice segment header have a width that follows from the parameter sets it refers
to. The header is confined if those sets were decoded from units: what their grammars bound, the
widths rely on.

Main statements: `SliceHeader.confined_decoder` and `SliceType.confined_decoder`.
-/

namespace CodedVideo.Hevc

open Decoder (Confined Yields)

variable {start : Nat} {mayRefer : Prop}

/-! ## What parameter sets bound -/

/-- What the widths of slice fields rely on in a picture parameter set. -/
class PictureParameterSet.BoundsWidths (set : PictureParameterSet) : Prop where
  reservedFlagCount_lt : set.reservedFlagCount < 8

/-- What the widths of slice fields rely on in a sequence parameter set. -/
class SequenceParameterSet.BoundsWidths (set : SequenceParameterSet) : Prop where
  log2MaxPictureOrderMinus4_le : set.log2MaxPictureOrderMinus4 ≤ 12
  candidates_length_le : ∀ candidates, set.longTermCandidates = some candidates →
    candidates.length ≤ LongTermReference.maxCount
  chained : set.ShortTermChained

namespace PictureParameterSet

theorem yields_fields : Yields fields BoundsWidths := by
  rw [fields]
  iterate 4 refine Yields.behind fun _ => ?_
  refine Yields.bind (Yields.bits 3) fun reservedFlagCount isBelow => ?_
  iterate 28 refine Yields.behind fun _ => ?_
  exact Yields.done ⟨isBelow⟩

theorem boundsWidths_of_keepDecoded {unit : List UInt8} {set : PictureParameterSet}
    (isDecoded : Interruption.keepDecoded (ofUnit unit) = .ok set) : set.BoundsWidths :=
  of_keepDecoded yields_fields isDecoded

end PictureParameterSet

namespace SequenceParameterSet

theorem yields_boundsWidths : Yields fields BoundsWidths :=
  (yields_bounded.and yields_fields).weaken fun _ ⟨bounded, chained⟩ =>
    ⟨bounded.log2MaxPictureOrderMinus4_le, bounded.candidates_length_le, chained⟩

/-- Also a set that was decoded only up to its extensions bounds the widths. -/
theorem boundsWidths_of_keepDecoded {unit : List UInt8} {set : SequenceParameterSet}
    (isDecoded : Interruption.keepDecoded (ofUnit unit) = .ok set) : set.BoundsWidths :=
  of_keepDecoded yields_boundsWidths isDecoded

end SequenceParameterSet

/-- The picture parameter sets of a table were decoded, at least up to their extensions. -/
def DecodedPictureTable (pictures : IdTable PictureParameterSet) : Prop :=
  ∀ id set, pictures.get? id = some set →
    ∃ unit, Interruption.keepDecoded (PictureParameterSet.ofUnit unit) = .ok set

theorem DecodedPictureTable.boundsWidths {pictures : IdTable PictureParameterSet}
    (picturesDecoded : DecodedPictureTable pictures) {id : Nat} {set : PictureParameterSet}
    (isListed : pictures.get? id = some set) : set.BoundsWidths := by
  obtain ⟨unit, unitDecoded⟩ := picturesDecoded id set isListed
  exact PictureParameterSet.boundsWidths_of_keepDecoded unitDecoded

theorem DecodedTable.boundsWidths {sequences : IdTable SequenceParameterSet}
    (sequencesDecoded : DecodedTable sequences) {id : Nat} {set : SequenceParameterSet}
    (isListed : sequences.get? id = some set) : set.BoundsWidths := by
  obtain ⟨unit, unitDecoded⟩ := sequencesDecoded id set isListed
  exact SequenceParameterSet.boundsWidths_of_keepDecoded unitDecoded

theorem decodedPictureTable_chainPictures : DecodedPictureTable chainPictures :=
  fun _ _ isListed => ⟨_, SliceSegment.keepDecoded_of_tableOf isListed⟩

/-! ## Widths -/

instance atMost_reservedFlagCount (set : PictureParameterSet) [bounds : set.BoundsWidths] :
    AtMost 32 set.reservedFlagCount :=
  ⟨Nat.le_trans (Nat.le_of_lt bounds.reservedFlagCount_lt) (by decide)⟩

instance atMost_log2MaxPictureOrder (set : SequenceParameterSet) [bounds : set.BoundsWidths] :
    AtMost 32 set.log2MaxPictureOrder where
  le := by
    have minus4_le := bounds.log2MaxPictureOrderMinus4_le
    rw [SequenceParameterSet.log2MaxPictureOrder]
    omega

instance atMost_ceilLog2_shortTermSets (set : SequenceParameterSet)
    [bounds : set.BoundsWidths] : AtMost 32 (ceilLog2 set.shortTermSets.length) :=
  ⟨ceilLog2_le (Nat.le_trans bounds.chained.length_le (by decide))⟩

instance atMost_ceilLog2_sizeInTreeBlocks (set : SequenceParameterSet) :
    AtMost 32 (ceilLog2 set.sizeInTreeBlocks) :=
  atMost_ceilLog2_saturate _

/-! ## The start of a segment -/

namespace SegmentStart

instance confined_unitDecoder : Confined start mayRefer unitDecoder := by
  unfold unitDecoder
  infer_instance

instance confined_findPictureSet (pictures : IdTable PictureParameterSet) (id : Nat) :
    Confined start True (findPictureSet pictures id) := by
  unfold findPictureSet
  split <;> infer_instance

instance confined_findSequenceSet (sequences : IdTable SequenceParameterSet) (id : Nat) :
    Confined start True (findSequenceSet sequences id) := by
  unfold findSequenceSet
  split <;> infer_instance

instance confined_typeDecoder : Confined start mayRefer typeDecoder := by
  refine Confined.behind fun code => ?_
  split <;> infer_instance

variable {sequences : IdTable SequenceParameterSet} {pictures : IdTable PictureParameterSet}

theorem confined_decoder (picturesDecoded : DecodedPictureTable pictures) (unit : NalHeader) :
    Confined start True (decoder sequences pictures unit) := by
  unfold decoder addressDecoder
  iterate 3 refine Confined.behind fun _ => ?_
  refine Confined.behind_yields (yields_findPictureSet pictures _) fun pictureSet isListed => ?_
  have bounds := picturesDecoded.boundsWidths isListed
  infer_instance

/-- A slice refers to a sequence parameter set of the table. -/
theorem yields_boundsWidths (sequencesDecoded : DecodedTable sequences) (unit : NalHeader) :
    Yields (decoder sequences pictures unit) fun referring =>
      referring.sequenceSet.BoundsWidths := by
  iterate 4 refine Yields.behind fun _ => ?_
  refine Yields.bind (yields_findSequenceSet sequences _) fun sequenceSet isListed => ?_
  iterate 4 refine Yields.behind fun _ => ?_
  exact Yields.done (sequencesDecoded.boundsWidths isListed)

end SegmentStart

/-! ## Kept pictures -/

instance ShortTermChoice.confined_decoder (sets : List ShortTermSet)
    [AtMost 32 (ceilLog2 sets.length)] : Confined start mayRefer (decoder sets) := by
  unfold decoder ofSequenceDecoder ownDecoder
  infer_instance

namespace LongTermReference

instance confined_chosenDecoder (candidates : List LongTermCandidate)
    [AtMost 32 (ceilLog2 candidates.length)] :
    Confined start mayRefer (chosenDecoder candidates) := by
  refine Confined.behind fun index => ?_
  unfold highBitsDecoder
  split <;> infer_instance

instance confined_codedDecoder (width : Nat) [AtMost 32 width] :
    Confined start mayRefer (codedDecoder width) := by
  unfold codedDecoder highBitsDecoder
  infer_instance

instance confined_listDecoder (width : Nat) (candidates : List LongTermCandidate)
    [AtMost 32 width] [AtMost 32 (ceilLog2 candidates.length)] :
    Confined start mayRefer (listDecoder width candidates) := by
  unfold listDecoder
  infer_instance

theorem yields_listDecoder (width : Nat) {candidates : List LongTermCandidate}
    (length_le : candidates.length ≤ maxCount) :
    Yields (listDecoder width candidates) (·.length ≤ maxCount) := by
  refine Yields.bind (Yields.whenElse Yields.boundedUnsigned (Nat.zero_le _))
    fun chosenCount chosen_le => ?_
  refine Yields.bind Yields.boundedUnsigned fun codedCount coded_le => ?_
  refine Yields.bind (Yields.replicate chosenCount _) fun chosen chosenLength => ?_
  refine Yields.bind (Yields.replicate codedCount _) fun coded codedLength => Yields.done ?_
  rw [List.length_append, chosenLength, codedLength]
  omega

end LongTermReference

namespace KeptPictures

variable (sequenceSet : SequenceParameterSet) [bounds : sequenceSet.BoundsWidths]

instance confined_decoder : Confined start mayRefer (decoder sequenceSet) := by
  have candidates (list : List LongTermCandidate)
      (isGiven : sequenceSet.longTermCandidates = some list) :
      AtMost 32 (ceilLog2 list.length) :=
    ⟨ceilLog2_le (Nat.le_trans (bounds.candidates_length_le list isGiven) (by decide))⟩
  unfold decoder
  cases isGiven : sequenceSet.longTermCandidates with
  | none => infer_instance
  | some list =>
      have isAtMost := candidates list isGiven
      infer_instance

theorem yields_longTerm :
    Yields (decoder sequenceSet) (·.longTerm.length ≤ LongTermReference.maxCount) := by
  have noneListed : Yields (Decoder.done ([] : List LongTermReference))
      (·.length ≤ LongTermReference.maxCount) := Yields.done (Nat.zero_le _)
  iterate 2 refine Yields.behind fun _ => ?_
  dsimp only
  split
  · exact Yields.bind noneListed fun _ length_le => Yields.behind fun _ => Yields.done length_le
  · next candidates isGiven =>
    have listed := LongTermReference.yields_listDecoder sequenceSet.log2MaxPictureOrder
      (bounds.candidates_length_le candidates isGiven)
    exact Yields.bind listed fun _ length_le => Yields.behind fun _ => Yields.done length_le

/-- The short-term set that was chosen lists no more pictures than a set can. -/
theorem usedCount_shortTerm_le {choice : ShortTermChoice} (ordered : choice.OwnOrdered) :
    ((choice.set? sequenceSet.shortTermSets).map (·.usedCount)).getD 0 ≤
      ShortTermSet.maxPictures := by
  have used_le (set : ShortTermSet) (size_le : set.size ≤ ShortTermSet.maxPictures) :
      set.usedCount ≤ ShortTermSet.maxPictures :=
    Nat.le_trans (Nat.add_le_add List.countP_le_length List.countP_le_length) size_le
  cases choice with
  | refresh => exact Nat.zero_le _
  | own set sizeInBits => exact used_le set (ordered set sizeInBits rfl).size_le
  | ofSequence index =>
      cases isListed : sequenceSet.shortTermSets[index]? with
      | none => simp [ShortTermChoice.set?, isListed]
      | some set =>
          have isMember := List.mem_of_getElem? isListed
          have set_le := used_le set (bounds.chained.chain.ordered set isMember).size_le
          simpa [ShortTermChoice.set?, isListed] using set_le

/-- A slice may use no more pictures than a short-term set and the long-term pictures can list. -/
theorem yields_usedCount_le :
    Yields (decoder sequenceSet) (·.usedCount sequenceSet.shortTermSets ≤ 48) := by
  have ordered := KeptPictures.yields_decoder bounds.chained
  refine (ordered.and (yields_longTerm sequenceSet)).weaken fun kept holds => ?_
  have shortTerm_le := usedCount_shortTerm_le sequenceSet holds.1
  have longTerm_le : kept.longTerm.countP (·.picture.used) ≤ LongTermReference.maxCount :=
    Nat.le_trans List.countP_le_length holds.2
  exact Nat.add_le_add shortTerm_le longTerm_le

/-- The number of pictures that a slice may use is coded in a field that one read can move. -/
theorem yields_atMost :
    Yields (decoder sequenceSet) fun kept =>
      AtMost 32 (ceilLog2 (kept.usedCount sequenceSet.shortTermSets)) :=
  (yields_usedCount_le sequenceSet).weaken fun _ count_le =>
    ⟨ceilLog2_le (Nat.le_trans count_le (by decide))⟩

end KeptPictures

/-! ## Pictures in use -/

instance ActiveReferences.confined_decoder (pictureSet : PictureParameterSet)
    (bidirectional : Bool) : Confined start mayRefer (decoder pictureSet bidirectional) := by
  unfold decoder
  infer_instance

instance ListModification.confined_decoder (active : ActiveReferences) (usedCount : Nat)
    (bidirectional : Bool) [AtMost 32 (ceilLog2 usedCount)] :
    Confined start mayRefer (decoder active usedCount bidirectional) := by
  unfold decoder entriesDecoder
  infer_instance

instance CollocatedPicture.confined_decoder (active : ActiveReferences) (bidirectional : Bool) :
    Confined start mayRefer (decoder active bidirectional) := by
  unfold decoder
  infer_instance

namespace WeightTable

instance confined_listDecoder (chromaCoded : Bool) (count : Nat) :
    Confined start mayRefer (listDecoder chromaCoded count) := by
  unfold listDecoder weightDecoder
  infer_instance

instance confined_decoder (chromaCoded bidirectional : Bool) (active : ActiveReferences) :
    Confined start mayRefer (decoder chromaCoded bidirectional active) := by
  unfold decoder
  infer_instance

end WeightTable

instance InterFields.confined_decoder (referring : ReferringStart) (sliceType : SliceType)
    (kept : KeptPictures)
    [AtMost 32 (ceilLog2 (kept.usedCount referring.sequenceSet.shortTermSets))] :
    Confined start mayRefer (decoder referring sliceType kept) := by
  unfold decoder
  infer_instance

/-! ## The whole header -/

instance DeblockingFields.confined_decoder (pictureSet : PictureParameterSet) :
    Confined start mayRefer (decoder pictureSet) := by
  unfold decoder ownDecoder
  infer_instance

instance SliceFields.confined_decoder (unitType : NalUnitType) (referring : ReferringStart)
    (sliceType : SliceType) [referring.sequenceSet.BoundsWidths] :
    Confined start mayRefer (decoder unitType referring sliceType) := by
  unfold decoder
  have noneKept : AtMost 32 (ceilLog2
      (({} : KeptPictures).usedCount referring.sequenceSet.shortTermSets)) :=
    ⟨Nat.zero_le 32⟩
  iterate 2 refine Confined.behind fun _ => ?_
  refine Confined.behind_yields
    (Yields.whenElse (KeptPictures.yields_atMost referring.sequenceSet) noneKept)
    fun kept isAtMost => ?_
  infer_instance

instance EntryPoints.confined_decoder (size : Nat) :
    Confined start mayRefer (decoder size) := by
  iterate 2 refine Confined.behind fun _ => ?_
  split
  · infer_instance
  · refine Confined.behind_yields Yields.boundedUnsigned fun offsetLengthMinus1 inRange => ?_
    have isAtMost : AtMost 31 offsetLengthMinus1 := ⟨inRange⟩
    infer_instance

namespace SliceHeader

instance confined_sliceFieldsDecoder (unit : NalHeader) (referring : ReferringStart)
    [referring.sequenceSet.BoundsWidths] :
    Confined start mayRefer (sliceFieldsDecoder unit referring) := by
  unfold sliceFieldsDecoder
  split <;> infer_instance

instance confined_paddingDecoder : Confined start mayRefer paddingDecoder := by
  unfold paddingDecoder zeroDecoder
  infer_instance

variable {sequences : IdTable SequenceParameterSet} {pictures : IdTable PictureParameterSet}
  (sequencesDecoded : DecodedTable sequences) (picturesDecoded : DecodedPictureTable pictures)

include sequencesDecoded picturesDecoded

theorem confined_decoder : Confined start True (decoder sequences pictures) := by
  have segmentStart (unit : NalHeader) :
      Confined start True (SegmentStart.decoder sequences pictures unit) :=
    SegmentStart.confined_decoder picturesDecoded unit
  have fields (unit : NalHeader) :
      Confined start True (fieldsDecoder sequences pictures unit) := by
    unfold fieldsDecoder refuseExtensions extensionDecoder
    refine Confined.behind fun _ => ?_
    refine Confined.behind_yields (SegmentStart.yields_boundsWidths sequencesDecoded unit)
      fun referring bounds => ?_
    infer_instance
  unfold decoder
  infer_instance

end SliceHeader

theorem SliceType.confined_decoder {sequences : IdTable SequenceParameterSet}
    {pictures : IdTable PictureParameterSet} (picturesDecoded : DecodedPictureTable pictures) :
    Confined start True (decoder sequences pictures) := by
  have segmentStart (unit : NalHeader) :
      Confined start True (SegmentStart.decoder sequences pictures unit) :=
    SegmentStart.confined_decoder picturesDecoded unit
  unfold decoder
  infer_instance

end CodedVideo.Hevc
