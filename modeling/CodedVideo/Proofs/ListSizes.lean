import CodedVideo.Proofs.Avc.ListSizes
import CodedVideo.Proofs.Avc.SliceReadBack
import CodedVideo.Proofs.CutShort
import CodedVideo.Proofs.Hevc.SliceConsistency
import CodedVideo.Proofs.SamePayload

/-!
# Lists within units

The entry points of an HEVC slice segment take, each with its width, no more bits than the unit has.
With the lists of AVC units they are the lists that are read in a loop over a coded count. Each such
loop is over items that cost bits, so it stops with the data whatever count is coded.

Main statement: `lists_withinUnit`.
-/

namespace CodedVideo

open Decoder (Spends EndsWithData)

/-! ## Entry points -/

namespace Hevc

/-- The number of bits in the distances between entry points. -/
def EntryPoints.offsetBits (points : EntryPoints) : Nat :=
  points.offsetsMinus1.length * (points.offsetLengthMinus1 + 1)

theorem EntryPoints.spends_decoder (size : Nat) : Spends (decoder size) offsetBits := by
  iterate 2 refine Spends.behind fun _ => ?_
  split
  · exact Spends.done rfl
  · refine Spends.behind fun offsetLengthMinus1 => ?_
    refine Spends.bind ((Spends.bits _).replicate _) fun offsets => ?_
    exact Spends.done (Nat.sub_self _)

variable (sequences : IdTable SequenceParameterSet) (pictures : IdTable PictureParameterSet)

theorem SliceHeader.spends_decoder :
    Spends (decoder sequences pictures) (·.entryPoints.offsetBits) := by
  refine Spends.behind fun _ => Spends.within ?_
  iterate 4 refine Spends.behind fun _ => ?_
  refine Spends.bind (Spends.whenElse (EntryPoints.spends_decoder _) rfl) fun entryPoints => ?_
  iterate 3 refine Spends.behind fun _ => ?_
  exact Spends.done (Nat.sub_self _)

variable {sequences pictures}

theorem SliceSegment.offsetBits_le_of_ofUnit {unit : List UInt8} {segment : SliceSegment}
    (isDecoded : ofUnit sequences pictures unit = .ok segment) :
    segment.header.entryPoints.offsetBits ≤ 8 * unit.length := by
  have header_eq : (SliceHeader.decoder sequences pictures).decodeUnit unit =
      .ok segment.header := by
    rw [← map_header_ofUnit, isDecoded]
    rfl
  exact (SliceHeader.spends_decoder sequences pictures).of_decodeUnit header_eq

end Hevc

/-! ## Loops -/

/-- The items of the loops over a coded count. -/
inductive CountedItem : {α : Type} → Decoder α → Prop where
  | bufferSchedule : CountedItem Avc.BufferSchedule.decoder
  | referenceOffset : CountedItem Decoder.signed
  | runLength : CountedItem Decoder.unsigned
  | rectangle : CountedItem Avc.GroupRectangle.decoder
  | groupNumber (countMinus1 : Nat) (several : countMinus1 ≠ 0) :
      CountedItem (Decoder.bits (ceilLog2 (saturate (countMinus1 + 1))))
  | weights (chromaCoded : Bool) : CountedItem (Avc.SliceHeader.predictionWeightDecoder chromaCoded)
  | entryPoint (offsetLengthMinus1 : Nat) : CountedItem (Decoder.bits (offsetLengthMinus1 + 1))

theorem CountedItem.spends {α : Type} {item : Decoder α} (counted : CountedItem item) :
    Spends item fun _ => 1 := by
  cases counted with
  | bufferSchedule => exact Avc.BufferSchedule.spends_decoder
  | referenceOffset => exact Spends.signed
  | runLength => exact Spends.unsigned
  | rectangle => exact Avc.GroupRectangle.spends_decoder.weaken fun _ => Nat.le_succ 1
  | groupNumber countMinus1 several => exact Avc.spends_groupNumber several
  | weights chromaCoded => exact Avc.SliceHeader.spends_predictionWeight chromaCoded
  | entryPoint offsetLengthMinus1 =>
      exact (Spends.bits _).weaken fun _ => Nat.le_add_left 1 offsetLengthMinus1

/-- In whatever unit is accepted, the lists have the lengths that are coded for them and the unit
has a bit for each of their entries, or as many bits as entry points are wide. Loops over a coded
count stop with the data for every count, and the ones whose end is coded in band are never cut off by
the bound on their entries. -/
theorem lists_withinUnit :
    (∀ (unit : List UInt8) (set : Avc.SequenceParameterSet),
        Avc.SequenceParameterSet.ofUnit unit = .ok set → set.ListsWithin (8 * unit.length)) ∧
      (∀ (sequences : IdTable Avc.SequenceParameterSet) (unit : List UInt8)
        (set : Avc.PictureParameterSet), Avc.PictureParameterSet.ofUnit sequences unit = .ok set →
          set.ListsWithin (8 * unit.length)) ∧
      (∀ (sequences : IdTable Avc.SequenceParameterSet) (pictures : IdTable Avc.PictureParameterSet)
        (unit : List UInt8) (header : Avc.SliceHeader),
        Avc.SliceHeader.ofUnit sequences pictures unit = .ok header →
          header.ListsWithin (8 * unit.length)) ∧
      (∀ (sequences : IdTable Hevc.SequenceParameterSet)
        (pictures : IdTable Hevc.PictureParameterSet) (unit : List UInt8)
        (segment : Hevc.SliceSegment),
        Hevc.SliceSegment.ofUnit sequences pictures unit = .ok segment →
          segment.header.entryPoints.offsetBits ≤ 8 * unit.length) ∧
      (∀ (α : Type) (item : Decoder α), CountedItem item → EndsWithData item) ∧
      ∀ (σ β : Type) [BitSource σ] [FiniteSource σ] (entry : Nat → Decoder (Option β)) (bound : Nat)
        (reader : Reader σ) (values : List β), reader.bitsLeft < bound →
          Decoder.runSeries (fun code => (entry code).run) bound values reader =
            Decoder.runSeries (fun code => (entry code).run) (reader.bitsLeft + 1) values
              reader := by
  refine ⟨?_, ?_, ?_, ?_, fun α item counted => counted.spends.endsWithData, ?_⟩
  · exact fun unit set => Avc.SequenceParameterSet.listsWithin_of_ofUnit
  · exact fun sequences unit set => Avc.PictureParameterSet.listsWithin_of_ofUnit
  · exact fun sequences pictures unit header => Avc.SliceHeader.listsWithin_of_ofUnit
  · exact fun sequences pictures unit segment => Hevc.SliceSegment.offsetBits_le_of_ofUnit
  · exact fun σ β _ _ entry bound reader values covered =>
      Decoder.runSeries_eq_of_bitsLeft_lt entry covered values

/-- A set with two offsets and two schedules, one with a rectangle, a slice with a modification, a
weight and an operation, and a segment with an entry point. A byte ends a loop over the greatest
count as it ends one over nine items. -/
theorem lists_withinUnit_samples :
    let sequenceUnit : List UInt8 :=
      [0x67, 0x42, 0x10, 0x28, 0x21, 0x50, 0xa9, 0x88, 0x12, 0x58, 0x1e, 0x01, 0x13, 0x41, 0x44,
        0x82, 0x82, 0x80, 0xa0, 0x28, 0xdd, 0xe5, 0xc3, 0x40]
    let pictureUnit : List UInt8 :=
      [0x28, 0x10, 0x4d, 0x38, 0x00, 0x04, 0x00, 0x01, 0xf1, 0xc4, 0x16, 0xc0]
    let slice : List UInt8 := [0x41, 0x9a, 0x20, 0x5f, 0x21, 0x8d, 0x33, 0x56, 0x8e, 0xa8]
    let avcSequences := IdTable.empty.insert 0 Avc.SliceHeader.sampleSequence
    let avcPictures := IdTable.empty.insert 0 Avc.SliceHeader.samplePicture
    (∃ set, Avc.SequenceParameterSet.ofUnit sequenceUnit = .ok set ∧ set.listedCount = 4 ∧
        set.ListsWithin 192) ∧
      (∃ set, Avc.PictureParameterSet.ofUnit .empty pictureUnit = .ok set ∧
        set.sliceGroups.map (·.map.listedCount) = some 2 ∧ set.ListsWithin 96) ∧
      (∃ header, Avc.SliceHeader.ofUnit avcSequences avcPictures slice = .ok header ∧
        header.listedCount = 3 ∧ header.ListsWithin 80) ∧
      (∃ segment, Hevc.SliceSegment.ofUnit Hevc.SliceSegment.richSequences
          Hevc.SliceSegment.richPictures Hevc.SliceSegment.richUnit = .ok segment ∧
        segment.header.entryPoints.offsetBits = 5 ∧
        segment.header.entryPoints.offsetBits ≤ 8 * Hevc.SliceSegment.richUnit.length) ∧
      ((Decoder.replicate 4294967295 Decoder.signed).run (EscapedReader.ofUnit [0x80])).1 =
        .error (.unlocated .unexpectedEnd) := by
  intro sequenceUnit pictureUnit slice avcSequences avcPictures
  obtain ⟨sequenceSets, pictureSets, slices, segments, loops, -⟩ := lists_withinUnit
  refine ⟨?_, ?_, ?_, ?_, ?_⟩
  · obtain ⟨set, accepted, count_eq⟩ := exists_eq_ok_of_any
      (Avc.SequenceParameterSet.ofUnit sequenceUnit) (·.listedCount == 4) (by decide +kernel)
    exact ⟨set, accepted, eq_of_beq count_eq, sequenceSets sequenceUnit set accepted⟩
  · obtain ⟨set, accepted, count_eq⟩ := exists_eq_ok_of_any
      (Avc.PictureParameterSet.ofUnit .empty pictureUnit)
      (·.sliceGroups.map (·.map.listedCount) == some 2) (by decide +kernel)
    exact ⟨set, accepted, eq_of_beq count_eq, pictureSets .empty pictureUnit set accepted⟩
  · obtain ⟨header, accepted, count_eq⟩ := exists_eq_ok_of_any
      (Avc.SliceHeader.ofUnit avcSequences avcPictures slice) (·.listedCount == 3)
      (by decide +kernel)
    exact ⟨header, accepted, eq_of_beq count_eq,
      slices avcSequences avcPictures slice header accepted⟩
  · obtain ⟨segment, accepted, bits_eq⟩ := exists_eq_ok_of_any
      (Hevc.SliceSegment.ofUnit Hevc.SliceSegment.richSequences Hevc.SliceSegment.richPictures
        Hevc.SliceSegment.richUnit) (·.header.entryPoints.offsetBits == 5) (by decide +kernel)
    exact ⟨segment, accepted, eq_of_beq bits_eq, segments _ _ _ segment accepted⟩
  · rw [(loops _ _ .referenceOffset).run_eq]
    decide +kernel

end CodedVideo
