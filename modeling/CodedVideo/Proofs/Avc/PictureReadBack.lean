import CodedVideo.Proofs.Avc.SequenceReadBack

/-!
# Reading AVC picture parameter sets back

A set is consistent if each field that it codes has the width or the range of its form, lists have
the lengths that are coded or known, and the sequence parameter set that it names, if it has scaling
lists, asks for as many of them. No field says whether the transform settings are coded: a reader
sees it from whether anything stands in front of the trailing bits. So a consistent set is decoded to
itself from a unit with the settings, and where a reader would assume them, also from one without.

Main statement: `PictureParameterSet.ofUnit_written_picture`.
-/

namespace CodedVideo.Avc

open CodedField (codeAll flagged onlyIf present)
open Decoder (Decodes ReadsBack ReadsBeforeTrailing ReadsToEnd)

/-! ## Slice groups -/

/-- There is a run for each group, a rectangle for each but the last, and at least one map unit. -/
def SliceGroupMap.ConsistentWith (countMinus1 : Nat) : SliceGroupMap → Prop
  | interleaved runLengthsMinus1 => runLengthsMinus1.length = countMinus1 + 1
  | foreground rectangles => rectangles.length = countMinus1
  | explicit groups => groups ≠ []
  | dispersed | changing _ _ _ => True

/-- Only two or more groups have a map. -/
structure SliceGroups.Consistent (groups : SliceGroups) : Prop where
  countMinus1_ne : groups.countMinus1 ≠ 0
  map : groups.map.ConsistentWith groups.countMinus1

theorem GroupRectangle.decodes_coding (rectangle : GroupRectangle) :
    Decodes GroupRectangle.decoder rectangle.coding rectangle := by
  intro start stop
  refine ReadsBack.bind (.unsigned rectangle.topLeft) fun mid => ?_
  exact ReadsBack.bind_last (.unsigned rectangle.bottomRight) (.done rectangle)

namespace SliceGroupMap

theorem decodes_changing (growth : GroupGrowth) (reversed : Bool) (rateMinus1 : Nat) :
    Decodes (changingDecoder growth) [.flag reversed, .unsigned rateMinus1]
      (changing growth reversed rateMinus1) := by
  intro start stop
  refine ReadsBack.bind (.flag reversed) fun mid => ?_
  exact ReadsBack.bind_last (.unsigned rateMinus1) (.done _)

theorem decodes_coding {map : SliceGroupMap} {countMinus1 : Nat}
    (consistent : map.ConsistentWith countMinus1) :
    Decodes (decoder countMinus1) (map.coding countMinus1) map := by
  intro start stop
  cases map with
  | interleaved runLengthsMinus1 =>
      refine ReadsBack.bind (.unsigned 0) fun mid => ?_
      exact ReadsBack.bind_last (.replicate_map consistent .unsigned) (.done _)
  | dispersed => exact ReadsBack.bind_last (.unsigned 1) (.done _)
  | foreground rectangles =>
      refine ReadsBack.bind (.unsigned 2) fun mid => ?_
      exact ReadsBack.bind_last
        (.replicate consistent fun rectangle _ => rectangle.decodes_coding) (.done _)
  | changing growth reversed rateMinus1 =>
      refine ReadsBack.bind (.unsigned growth.code) fun mid => ?_
      cases growth with
      | boxOut => exact decodes_changing .boxOut reversed rateMinus1 mid stop
      | rasterScan => exact decodes_changing .rasterScan reversed rateMinus1 mid stop
      | wipe => exact decodes_changing .wipe reversed rateMinus1 mid stop
  | explicit groups =>
      have size_eq : groups.length = groups.length - 1 + 1 :=
        (Nat.sub_one_add_one (mt List.eq_nil_of_length_eq_zero consistent)).symm
      refine ReadsBack.bind (.unsigned 6) fun mid => ?_
      refine ReadsBack.bind (.unsigned (groups.length - 1)) fun mid => ?_
      exact ReadsBack.bind_last (.replicate_map size_eq fun group => .bits group _) (.done _)

end SliceGroupMap

theorem SliceGroups.decodes_coding {groups? : Option SliceGroups}
    (consistent : ∀ groups ∈ groups?, groups.Consistent) :
    Decodes SliceGroups.decoder (SliceGroups.coding groups?) groups? := by
  intro start stop
  cases groups? with
  | none => exact ReadsBack.bind_last (.unsigned 0) (.done none)
  | some groups =>
      obtain ⟨countMinus1_ne, map⟩ := consistent groups rfl
      refine ReadsBack.bind (.unsigned groups.countMinus1) fun mid => ?_
      rw [if_neg countMinus1_ne]
      exact ReadsBack.bind_last (SliceGroupMap.decodes_coding map) (.done _)

/-! ## Transform settings -/

namespace TransformSettings

/-- Scaling lists stand in their slots, and there are as many of them as the sequence parameter set
asks for that is named. -/
structure ConsistentWith (settings : TransformSettings) (sequences : IdTable SequenceParameterSet)
    (sequenceId : Nat) : Prop where
  scalingLists_length : ∀ lists ∈ settings.scalingLists, ∃ sequenceSet,
    sequences.get? sequenceId = some sequenceSet ∧
      lists.length = scalingListCount settings.transform8x8 sequenceSet.format.chroma
  scalingLists : ∀ lists ∈ settings.scalingLists, ∀ entry ∈ lists.zipIdx,
    entry.1.ConsistentWith entry.2

variable {settings : TransformSettings} {sequences : IdTable SequenceParameterSet}
  {sequenceId : Nat}

theorem decodes_scalingLists (consistent : settings.ConsistentWith sequences sequenceId)
    {lists : List ScalingList} (isThere : lists ∈ settings.scalingLists) :
    Decodes (scalingListDecoder sequences sequenceId settings.transform8x8)
      (lists.flatMap ScalingList.coding) lists := by
  obtain ⟨sequenceSet, isListed, length_eq⟩ := consistent.scalingLists_length lists isThere
  rw [scalingListDecoder, isListed]
  exact .times length_eq fun entry isEntry =>
    ScalingList.decodes_coding (consistent.scalingLists lists isThere entry isEntry)

theorem decodes_coding (consistent : settings.ConsistentWith sequences sequenceId) :
    Decodes (decoder sequences sequenceId) settings.coding settings := by
  simp only [coding, List.cons_append, List.nil_append]
  intro start stop
  refine ReadsBack.bind (.flag settings.transform8x8) fun mid => ?_
  refine ReadsBack.optionalBehindFlag_bind (fun lists isThere =>
    decodes_scalingLists consistent isThere) fun mid => ?_
  exact ReadsBack.bind_last (.signed settings.secondChromaQpOffset) (.done settings)

/-- The settings have bits, so they do not look like trailing bits. -/
theorem codeAll_coding_ne_nil (settings : TransformSettings) (position : Nat) :
    codeAll settings.coding position ≠ [] :=
  List.cons_ne_nil _ _

end TransformSettings

/-! ## Whole sets -/

namespace PictureParameterSet

/-- The set can be written: each field that is coded has the width or the range of its form, and the
parts are consistent. -/
structure ConsistentWith (set : PictureParameterSet) (sequences : IdTable SequenceParameterSet) :
    Prop where
  exact : ∀ field ∈ set.coding true, field.Exact
  sliceGroups : ∀ groups ∈ set.sliceGroups, groups.Consistent
  transform : set.transform.ConsistentWith sequences set.sequenceId

variable {set : PictureParameterSet} {sequences : IdTable SequenceParameterSet}
  {transformCoded : Bool}

/-- The settings are read back behind the question whether there are any. -/
theorem readsBack_transform (consistent : set.ConsistentWith sequences)
    (inferred : transformCoded = false → set.transform = .inferred set.chromaQpOffset)
    (start : Nat) :
    ReadsBeforeTrailing
      (Decoder.hasMoreData.bind fun hasMore =>
        (Decoder.whenElse hasMore (.inferred set.chromaQpOffset)
          (TransformSettings.decoder sequences set.sequenceId)).bind fun transform =>
            Decoder.done { set with transform })
      (onlyIf transformCoded set.transform.coding) set start := by
  have hasMore_eq :
      decide (codeAll (onlyIf transformCoded set.transform.coding) start ≠ []) =
        transformCoded := by
    cases transformCoded with
    | true => exact decide_eq_true (set.transform.codeAll_coding_ne_nil start)
    | false => rfl
  refine ReadsBeforeTrailing.hasMoreData_bind ?_
  rw [hasMore_eq]
  exact ReadsBeforeTrailing.bind_last
    (.whenElse (TransformSettings.decodes_coding consistent.transform) inferred) rfl

theorem readsBack_fields (consistent : set.ConsistentWith sequences)
    (inferred : transformCoded = false → set.transform = .inferred set.chromaQpOffset)
    (start : Nat) :
    ReadsBeforeTrailing (fields sequences) (set.coding transformCoded) set start := by
  simp only [coding, leadingCoding, List.append_assoc, List.cons_append, List.nil_append]
  refine ReadsBeforeTrailing.bind (.unsigned set.id) fun mid => ?_
  refine ReadsBeforeTrailing.bind (.unsigned set.sequenceId) fun mid => ?_
  refine ReadsBeforeTrailing.bind (.flag set.arithmeticCoding) fun mid => ?_
  refine ReadsBeforeTrailing.bind (.flag set.bottomFieldOrderPresent) fun mid => ?_
  refine ReadsBeforeTrailing.bind (SliceGroups.decodes_coding consistent.sliceGroups)
    fun mid => ?_
  refine ReadsBeforeTrailing.bind (.unsigned set.defaultActiveList0Minus1) fun mid => ?_
  refine ReadsBeforeTrailing.bind (.unsigned set.defaultActiveList1Minus1) fun mid => ?_
  refine ReadsBeforeTrailing.bind (.flag set.weightedPrediction) fun mid => ?_
  refine ReadsBeforeTrailing.bind (.bits set.weightedBipredictionIdc 2) fun mid => ?_
  refine ReadsBeforeTrailing.bind (.signed set.initialQpMinus26) fun mid => ?_
  refine ReadsBeforeTrailing.bind (.signed set.initialQsMinus26) fun mid => ?_
  refine ReadsBeforeTrailing.bind (.signed set.chromaQpOffset) fun mid => ?_
  refine ReadsBeforeTrailing.bind (.flag set.deblockingControlPresent) fun mid => ?_
  refine ReadsBeforeTrailing.bind (.flag set.constrainedIntraPrediction) fun mid => ?_
  refine ReadsBeforeTrailing.bind (.flag set.redundantPictureCountPresent) fun mid => ?_
  exact readsBack_transform consistent inferred mid

/-- The header of a unit that holds a picture parameter set. -/
abbrev headerOf (refIdc : Nat) : NalHeader :=
  { refIdc, unitType := .pps }

theorem readsToEnd_decoder (consistent : set.ConsistentWith sequences)
    (inferred : transformCoded = false → set.transform = .inferred set.chromaQpOffset)
    (refIdc : Nat) :
    ReadsToEnd (decoder sequences)
      ((headerOf refIdc).coding ++ set.coding transformCoded ++ [.trailing]) set 0 := by
  rw [List.append_assoc]
  refine ReadsToEnd.bind (.within (NalHeader.decodes_coding rfl)) fun mid => ?_
  refine ReadsToEnd.bind_first (.require rfl) ?_
  refine ReadsToEnd.bind_beforeTrailing
    (ReadsBeforeTrailing.within (readsBack_fields consistent inferred mid)) fun mid => ?_
  exact ReadsToEnd.bind_last (ReadsToEnd.within .trailingBits) rfl

/-- A set is written to a unit with the transform settings, or without those that a reader assumes,
and the unit is decoded to that set. -/
theorem exists_ofUnit_written (consistent : set.ConsistentWith sequences)
    (inferred : transformCoded = false → set.transform = .inferred set.chromaQpOffset)
    {refIdc : Nat} (refIdc_lt : refIdc < 4) :
    ∃ unit, set.toUnit refIdc transformCoded = .ok unit ∧ ofUnit sequences unit = .ok set := by
  have codingExact : ∀ field ∈ set.coding transformCoded, field.Exact := by
    have allExact := consistent.exact
    cases transformCoded with
    | true => exact allExact
    | false =>
        rw [coding, List.forall_mem_append] at allExact ⊢
        exact ⟨allExact.1, List.forall_mem_nil _⟩
  have code_lt : NalUnitType.pps.code < 32 := by decide
  have exact : ∀ field ∈ (headerOf refIdc).coding ++ set.coding transformCoded ++ [.trailing],
      field.Exact := by
    rw [List.forall_mem_append, List.forall_mem_append, List.forall_mem_singleton]
    exact ⟨⟨NalHeader.exact_coding refIdc_lt code_lt, codingExact⟩, by decide⟩
  exact Decoder.decodeUnit_toUnit_trailing (readsToEnd_decoder consistent inferred refIdc) exact

/-- A consistent set is written to a unit with its transform settings, and the unit is decoded to
that set. Where the settings are those that a reader assumes, they can be left out. -/
theorem ofUnit_written_picture {set : PictureParameterSet}
    {sequences : IdTable SequenceParameterSet} (consistent : set.ConsistentWith sequences)
    {refIdc : Nat} (refIdc_lt : refIdc < 4) :
    (∃ unit, set.toUnit refIdc true = .ok unit ∧ ofUnit sequences unit = .ok set) ∧
      (set.transform = .inferred set.chromaQpOffset →
        ∃ unit, set.toUnit refIdc false = .ok unit ∧ ofUnit sequences unit = .ok set) := by
  constructor
  · refine exists_ofUnit_written consistent ?_ refIdc_lt
    exact nofun
  · intro inferred
    exact exists_ofUnit_written consistent (fun _ => inferred) refIdc_lt

/-! ### Sets with and without transform settings -/

/-- A set with a group for each map unit and scaling lists for a sequence that codes chroma in
full. -/
def scalingSample : PictureParameterSet where
  id := 7
  sequenceId := 3
  arithmeticCoding := true
  bottomFieldOrderPresent := true
  sliceGroups := some { countMinus1 := 2, map := .explicit [0, 1, 2, 2, 1, 0] }
  defaultActiveList0Minus1 := 2
  defaultActiveList1Minus1 := 0
  weightedPrediction := true
  weightedBipredictionIdc := 2
  initialQpMinus26 := -3
  initialQsMinus26 := 4
  chromaQpOffset := -2
  deblockingControlPresent := true
  constrainedIntraPrediction := false
  redundantPictureCountPresent := true
  transform := {
    transform8x8 := true
    scalingLists := some (
      [.explicit (List.range' 240 16), .notPresent, .useDefault] ++ List.replicate 3 .notPresent ++
        [.explicit (List.replicate 64 9)] ++ List.replicate 5 .useDefault)
    secondChromaQpOffset := 12 }

/-- The table with a sequence that codes chroma in full. -/
def scalingSequences : IdTable SequenceParameterSet :=
  IdTable.empty.insert 3 SequenceParameterSet.fullSample

/-- A set with rectangles as groups and with the transform settings that a reader assumes. -/
def plainSample : PictureParameterSet :=
  { scalingSample with
    sliceGroups := some {
      countMinus1 := 1
      map := .foreground [{ topLeft := 0, bottomRight := 65535 }] }
    transform := .inferred (-2) }

theorem consistent_scalingSample : scalingSample.ConsistentWith scalingSequences where
  exact := by decide +kernel
  sliceGroups := by
    rintro groups ⟨⟩
    exact ⟨by decide, List.cons_ne_nil _ _⟩
  transform := by
    refine ⟨?_, ?_⟩
    · rintro lists ⟨⟩
      exact ⟨_, rfl, rfl⟩
    · rintro lists ⟨⟩
      decide +kernel

theorem consistent_plainSample (sequences : IdTable SequenceParameterSet) :
    plainSample.ConsistentWith sequences where
  exact := by decide +kernel
  sliceGroups := by
    rintro groups ⟨⟩
    exact ⟨by decide, rfl⟩
  transform := ⟨nofun, nofun⟩

/-- The set with scaling lists is written and decoded with the sequence that it names, and the other
one is written without transform settings and decoded without any sequence. -/
theorem ofUnit_written_picture_samples :
    (∃ unit, scalingSample.toUnit 3 true = .ok unit ∧
        ofUnit scalingSequences unit = .ok scalingSample) ∧
      ∃ unit, plainSample.toUnit 1 false = .ok unit ∧ ofUnit .empty unit = .ok plainSample := by
  constructor
  · exact (ofUnit_written_picture consistent_scalingSample (by decide)).1
  · exact (ofUnit_written_picture (consistent_plainSample .empty) (by decide)).2 rfl

end PictureParameterSet

end CodedVideo.Avc
