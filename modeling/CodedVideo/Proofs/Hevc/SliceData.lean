import CodedVideo.Hevc.SliceHeader
import CodedVideo.Proofs.NalUnit.Cut

/-!
# Where HEVC slice data starts

The padding of a slice segment header opens with a one and ends at a byte boundary. So behind the
header the unit can be cut: the stored bytes in front of the cut hold the header and those behind it
the slice data, each with the inserted bytes that belong to them.

Main statement: `SliceSegment.dataOffset_cuts_unit`.
-/

namespace CodedVideo.Hevc

open Decoder (Ensures)
open EscapedSource (ValidIn Waiting)

variable {unit : List UInt8}

/-! ## The header of the unit -/

/-- The header of a unit has 16 bits. -/
theorem NalHeader.ensures_decoder :
    Ensures (fun reader : EscapedReader => reader.source.ValidIn unit ∧ reader.position = 0)
      NalHeader.decoder
      fun _ reader => reader.source.ValidIn unit ∧ reader.position = 16 := by
  have forbidden : Ensures
      (fun reader : EscapedReader => reader.source.ValidIn unit ∧ reader.position = 0) Decoder.flag
      fun _ reader => reader.source.ValidIn unit ∧ reader.position = 1 := by
    apply Ensures.flag
    intro reader last value starts next_eq
    refine ⟨starts.1.next next_eq, ?_⟩
    exact (starts.1.position_next next_eq).trans (congrArg (· + 1) starts.2)
  refine Ensures.bind forbidden.within ?_
  intro isForbidden
  refine Ensures.bind Ensures.require ?_
  intro _
  refine Ensures.bind (Ensures.weaken (Ensures.bits 6).within (fun _ starts => starts.1)
    fun _ _ ends => ends) ?_
  intro code
  refine Ensures.bind (Ensures.bits 6).within ?_
  intro layerId
  refine Ensures.bind (Ensures.bits 3).within ?_
  intro temporalIdPlus1
  refine Ensures.bind Ensures.require ?_
  intro _
  exact Ensures.done fun _ ends => ends.1

/-- A unit that holds a slice segment has a header of 16 bits too. -/
theorem SegmentStart.ensures_unitDecoder :
    Ensures (fun reader : EscapedReader => reader.source.ValidIn unit ∧ reader.position = 0)
      SegmentStart.unitDecoder
      fun _ reader => reader.source.ValidIn unit ∧ reader.position = 16 := by
  refine Ensures.bind NalHeader.ensures_decoder ?_
  intro header
  refine Ensures.bind Ensures.require ?_
  intro _
  refine Ensures.bind Ensures.require ?_
  intro _
  exact Ensures.done fun _ ends => ends.1.1

namespace SliceHeader

/-! ## The padding -/

/-- A zero of the padding is one of the bits that wait. -/
theorem ensures_zeroDecoder (count : Nat) :
    Ensures (fun reader : EscapedReader => reader.source.Waiting unit (count + 1)) zeroDecoder
      fun _ reader => reader.source.Waiting unit count := by
  have bit : Ensures (fun reader : EscapedReader => reader.source.Waiting unit (count + 1))
      Decoder.flag fun _ reader => reader.source.Waiting unit count := by
    apply Ensures.flag
    intro reader last value starts next_eq
    exact starts.next next_eq
  refine Ensures.bind bit ?_
  intro value
  exact Ensures.require.weaken (fun _ starts => starts) fun _ _ ends => ends.1

/-- Behind the padding the unit can be cut. -/
theorem ensures_paddingDecoder :
    Ensures (fun reader : EscapedReader => reader.source.ValidIn unit) paddingDecoder
      fun _ reader => reader.source.Waiting unit 0 := by
  have one : Ensures (fun reader : EscapedReader => reader.source.ValidIn unit) Decoder.flag
      fun value reader => value = true →
        reader.source.Waiting unit reader.source.pending.length := by
    apply Ensures.flag
    intro reader last value starts next_eq isOne
    subst isOne
    exact starts.waiting next_eq
  refine Ensures.bind one ?_
  intro isOne
  refine Ensures.bind Ensures.require ?_
  intro _
  refine Ensures.bind Ensures.position ?_
  intro position
  refine Ensures.bind (Ensures.weaken (Ensures.replicate
    (fun count (reader : EscapedReader) => reader.source.Waiting unit count) ensures_zeroDecoder
    (Bits.toBoundary position)) ?_ fun _ _ ends => ends) ?_
  · rintro reader ⟨⟨waiting, isOne⟩, rfl⟩
    have waits := waiting isOne
    have count_eq : Bits.toBoundary reader.position = reader.source.pending.length :=
      waits.toBoundary_position
    rw [count_eq]
    exact waits
  · intro zeros
    exact Ensures.done fun _ ends => ends

/-! ## The whole header -/

/-- Behind the fields the unit can be cut, and the position is the end of the header. -/
theorem ensures_fieldsDecoder (sequences : IdTable SequenceParameterSet)
    (pictures : IdTable PictureParameterSet) (header : NalHeader) :
    Ensures (fun reader : EscapedReader => reader.source.ValidIn unit ∧ reader.position = 16)
      (fieldsDecoder sequences pictures header)
      fun result reader => reader.source.Waiting unit 0 ∧
        16 + result.sizeInBits = reader.position := by
  refine Ensures.bind Ensures.position ?_
  intro origin
  -- Whatever is read up to the padding, the position never falls behind the first bit.
  let kept (source : EscapedSource) : Prop :=
    source.ValidIn unit ∧ 16 ≤ BitSource.position source ∧ origin = 16
  have preserved {source rest : EscapedSource} {bit : Bool}
      (next_eq : BitSource.next source = some (bit, rest)) (holds : kept source) : kept rest := by
    refine ⟨holds.1.next next_eq, ?_, holds.2.2⟩
    rw [holds.1.position_next next_eq]
    exact Nat.le_succ_of_le holds.2.1
  have keeps {α : Type} (decoder : Decoder α) :
      Ensures (fun reader : EscapedReader => kept reader.source) decoder
        fun _ reader => kept reader.source :=
    Ensures.of_preserved preserved decoder
  refine Ensures.bind (Ensures.weaken (keeps _) ?_ fun _ _ ends => ends) ?_
  · rintro reader ⟨⟨valid, position_eq⟩, rfl⟩
    exact ⟨valid, Nat.le_of_eq position_eq.symm, position_eq⟩
  intro referring
  refine Ensures.bind (keeps _) ?_
  intro _
  refine Ensures.bind (keeps _) ?_
  intro fields
  refine Ensures.bind (keeps _) ?_
  intro entryPoints
  refine Ensures.bind (keeps _) ?_
  intro extensionData
  refine Ensures.bind (Ensures.weaken ((keeps _).and ensures_paddingDecoder)
    (fun _ starts => ⟨starts, starts.1⟩) fun _ _ ends => ends) ?_
  intro _
  refine Ensures.bind Ensures.position ?_
  intro stop
  apply Ensures.done
  rintro reader ⟨⟨⟨_, position_ge, rfl⟩, waiting⟩, rfl⟩
  refine ⟨waiting, ?_⟩
  exact Nat.add_sub_cancel' position_ge

/-- Behind the header the unit can be cut, and the position is the end of the header. -/
theorem ensures_decoder (sequences : IdTable SequenceParameterSet)
    (pictures : IdTable PictureParameterSet) :
    Ensures (fun reader : EscapedReader => reader.source.ValidIn unit ∧ reader.position = 0)
      (decoder sequences pictures)
      fun result reader => reader.source.Waiting unit 0 ∧
        16 + result.sizeInBits = reader.position := by
  refine Ensures.bind SegmentStart.ensures_unitDecoder ?_
  intro header
  exact (ensures_fieldsDecoder sequences pictures header).within

end SliceHeader

namespace SliceSegment

/-- A segment is the header that is decoded, with the number of stored bytes that are read for
it. -/
theorem ofUnit_eq (sequences : IdTable SequenceParameterSet)
    (pictures : IdTable PictureParameterSet) (unit : List UInt8) :
    ofUnit sequences pictures unit =
      let run := (SliceHeader.decoder sequences pictures).run (EscapedReader.ofUnit unit)
      run.1.map fun header => { header, dataOffset := run.2.source.loaded } := by
  simp only [ofUnit, Staged.onUnit, bind, ExceptT.bind, ExceptT.mk, StateT.bind, Staged.decode]
  rcases (SliceHeader.decoder sequences pictures).run (EscapedReader.ofUnit unit) with
    ⟨error | header, last⟩
  · rfl
  · rfl

/-- The data of an accepted segment starts where its header ends, at a byte boundary: the bits of
the header are those of the stored bytes in front of the data that are not inserted ones. No
inserted byte of the data depends on what stands in front of the cut, so the payload of the unit is
that of the header and that of the data. -/
theorem dataOffset_cuts_unit (sequences : IdTable SequenceParameterSet)
    (pictures : IdTable PictureParameterSet) (unit : List UInt8) (segment : SliceSegment)
    (accepted : ofUnit sequences pictures unit = .ok segment) :
    segment.header.sizeInBits % 8 = 0 ∧
      16 + segment.header.sizeInBits =
        8 * (segment.dataOffset - Emulation.count (unit.take segment.dataOffset)) ∧
      segment.dataOffset ≤ unit.length ∧
      Emulation.remove unit =
        Emulation.remove (unit.take segment.dataOffset) ++
          Emulation.remove (unit.drop segment.dataOffset) := by
  rw [ofUnit_eq] at accepted
  rcases run_eq : (SliceHeader.decoder sequences pictures).run (EscapedReader.ofUnit unit) with
    ⟨error | header, last⟩
  · rw [run_eq] at accepted
    cases accepted
  · rw [run_eq] at accepted
    cases accepted
    have starts : (EscapedReader.ofUnit unit).source.ValidIn unit ∧
        (EscapedReader.ofUnit unit).position = 0 := ⟨EscapedSource.validIn_ofUnit unit, rfl⟩
    rcases SliceHeader.ensures_decoder sequences pictures _ last header starts run_eq with
      ⟨cut, size_eq⟩
    have position_eq : last.position =
        8 * (last.source.loaded - Emulation.count (unit.take last.source.loaded)) :=
      cut.position_eq
    rw [position_eq] at size_eq
    refine ⟨?_, size_eq, cut.unit_eq ▸ cut.loaded_le, cut.remove_eq⟩
    change header.sizeInBits % 8 = 0
    omega

/-! ### A segment with an inserted byte -/

/-- The table with the one set that is decoded. -/
def tableOf {α : Type} (id : α → Nat) : Except (Interruption α) α → IdTable α
  | .ok set => IdTable.empty.insert (id set) set
  | .error _ => .empty

/-- The sequence parameter set of a stream with pictures of 1920 by 1080 samples. -/
def sampleSequences : IdTable SequenceParameterSet :=
  tableOf (·.id) <| SequenceParameterSet.ofUnit
    [0x42, 0x01, 0x01, 0x01, 0x60, 0x00, 0x00, 0x03, 0x00, 0x90, 0x00, 0x00, 0x03, 0x00, 0x00, 0x03,
      0x00, 0x78, 0xa0, 0x03, 0xc0, 0x80, 0x10, 0xe5, 0x96, 0x56, 0x69, 0x24, 0xca, 0xe0, 0x10,
      0x00, 0x00, 0x03, 0x00, 0x10, 0x00, 0x00, 0x03, 0x01, 0xe0, 0x80]

/-- The picture parameter set of that stream. -/
def samplePictures : IdTable PictureParameterSet :=
  tableOf (·.id) <| PictureParameterSet.ofUnit [0x44, 0x01, 0xc1, 0x72, 0xb4, 0x62, 0x40]

/-- A segment of that stream. An entry point of 32 bits puts an inserted byte into the header, and
two bytes of data follow. -/
def sampleSegment : List UInt8 :=
  [0x02, 0x01, 0x40, 0x08, 0x00, 0xb8, 0x66, 0x40, 0x80, 0x00, 0x00, 0x03, 0x00, 0x02, 0x12, 0x34]

/-- The segment is accepted, so its unit can be cut. -/
theorem dataOffset_cuts_sample :
    ∃ segment, ofUnit sampleSequences samplePictures sampleSegment = .ok segment ∧
      segment.header.sizeInBits % 8 = 0 ∧
      16 + segment.header.sizeInBits =
        8 * (segment.dataOffset - Emulation.count (sampleSegment.take segment.dataOffset)) ∧
      segment.dataOffset ≤ sampleSegment.length ∧
      Emulation.remove sampleSegment =
        Emulation.remove (sampleSegment.take segment.dataOffset) ++
          Emulation.remove (sampleSegment.drop segment.dataOffset) := by
  have isAccepted :
      (ofUnit sampleSequences samplePictures sampleSegment).toOption.isSome = true := by
    decide +kernel
  cases accepted : ofUnit sampleSequences samplePictures sampleSegment with
  | error error =>
      rw [accepted] at isAccepted
      contradiction
  | ok segment =>
      rcases dataOffset_cuts_unit sampleSequences samplePictures sampleSegment segment accepted with
        ⟨aligned, size_eq, offset_le, remove_eq⟩
      exact ⟨segment, rfl, aligned, size_eq, offset_le, remove_eq⟩

end SliceSegment

end CodedVideo.Hevc
