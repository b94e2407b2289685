import CodedVideo.Hevc.VideoParameterSet
import CodedVideo.Proofs.Avc.SequenceGrammar
import CodedVideo.Proofs.Hevc.SliceData
import CodedVideo.Proofs.NalUnit.Payload
import CodedVideo.Vvc.SequenceParameterSet

/-!
# Units with one payload

Bytes that are inserted into a unit do not influence what is decoded of it: units that escape one
payload, each in its own way, decode to the same value, partial value or error. Only numbers of
stored bytes tell them apart.

Main statement: `parsers_dependOnPayload`.
-/

namespace CodedVideo

/-- The parser finds the same in all units that have one payload. -/
def DependsOnPayload {ε α : Type} (parse : List UInt8 → Except ε α) : Prop :=
  ∀ first second, Emulation.remove first = Emulation.remove second → parse first = parse second

namespace Decoder

variable {α : Type}

theorem dependsOnPayload_decodeUnit (decoder : Decoder α) :
    DependsOnPayload decoder.decodeUnit := by
  intro first second same
  rw [decodeUnit_eq_run_payload, decodeUnit_eq_run_payload, same]

theorem dependsOnPayload_decodeUnitPartly (decoder : Decoder (α × Option Error)) :
    DependsOnPayload decoder.decodeUnitPartly := by
  intro first second same
  simp only [decodeUnitPartly, decoder.dependsOnPayload_decodeUnit first second same]

end Decoder

/-- But for the numbers of stored bytes that are noted between its stages, a set depends on the
payload. -/
theorem Avc.SequenceParameterSet.dependsOnPayload_ofUnit :
    DependsOnPayload fun unit => (ofUnit unit).map withoutByteCounts := by
  intro first second same
  simp only [map_withoutByteCounts_ofUnit]
  exact unitDecoder.dependsOnPayload_decodeUnit first second same

/-- The header of a segment is what its decoder gives; only the place of the data behind it is
counted in stored bytes. -/
theorem Hevc.SliceSegment.map_header_ofUnit (sequences : IdTable SequenceParameterSet)
    (pictures : IdTable PictureParameterSet) (unit : List UInt8) :
    (ofUnit sequences pictures unit).map (·.header) =
      (SliceHeader.decoder sequences pictures).decodeUnit unit := by
  rw [ofUnit_eq, Decoder.decodeUnit]
  rcases (SliceHeader.decoder sequences pictures).run (EscapedReader.ofUnit unit) with
    ⟨error | header, last⟩
  · rfl
  · rfl

theorem Hevc.SliceSegment.dependsOnPayload_ofUnit (sequences : IdTable SequenceParameterSet)
    (pictures : IdTable PictureParameterSet) :
    DependsOnPayload fun unit => (ofUnit sequences pictures unit).map (·.header) := by
  intro first second same
  simp only [map_header_ofUnit]
  exact (SliceHeader.decoder sequences pictures).dependsOnPayload_decodeUnit first second same

/-- Each parser of units finds the same in all units that have one payload: a value, what was
decoded up to a place where decoding stops, or an error. The only exceptions are the numbers of
stored bytes in an AVC sequence parameter set and the place where the data of an HEVC slice segment
starts in its unit. -/
theorem parsers_dependOnPayload
    (avcSequences : IdTable Avc.SequenceParameterSet)
    (avcPictures : IdTable Avc.PictureParameterSet)
    (hevcSequences : IdTable Hevc.SequenceParameterSet)
    (hevcPictures : IdTable Hevc.PictureParameterSet) :
    DependsOnPayload (fun unit =>
        (Avc.SequenceParameterSet.ofUnit unit).map (·.withoutByteCounts)) ∧
      DependsOnPayload (Avc.PictureParameterSet.ofUnit avcSequences) ∧
      DependsOnPayload (Avc.SliceHeader.ofUnit avcSequences avcPictures) ∧
      DependsOnPayload Avc.SliceType.ofUnit ∧
      DependsOnPayload Hevc.VideoParameterSet.ofUnit ∧
      DependsOnPayload Hevc.SequenceParameterSet.ofUnit ∧
      DependsOnPayload Hevc.PictureParameterSet.ofUnit ∧
      DependsOnPayload (fun unit =>
        (Hevc.SliceSegment.ofUnit hevcSequences hevcPictures unit).map (·.header)) ∧
      DependsOnPayload (Hevc.SliceType.ofUnit hevcSequences hevcPictures) ∧
      DependsOnPayload Vvc.SequenceParameterSet.ofUnit := by
  refine ⟨Avc.SequenceParameterSet.dependsOnPayload_ofUnit, ?_, ?_, ?_, ?_, ?_, ?_,
    Hevc.SliceSegment.dependsOnPayload_ofUnit hevcSequences hevcPictures, ?_, ?_⟩
  · exact (Avc.PictureParameterSet.decoder avcSequences).dependsOnPayload_decodeUnit
  · exact (Avc.SliceHeader.decoder avcSequences avcPictures).dependsOnPayload_decodeUnit
  · exact Avc.SliceType.decoder.dependsOnPayload_decodeUnit
  · exact Hevc.VideoParameterSet.decoder.dependsOnPayload_decodeUnit
  · exact Hevc.SequenceParameterSet.decoder.dependsOnPayload_decodeUnitPartly
  · exact Hevc.PictureParameterSet.decoder.dependsOnPayload_decodeUnitPartly
  · exact (Hevc.SliceType.decoder hevcSequences hevcPictures).dependsOnPayload_decodeUnit
  · exact Vvc.SequenceParameterSet.decoder.dependsOnPayload_decodeUnitPartly

/-- A segment whose entry point asks for an inserted byte, and the same segment without that byte:
three zeros in a row, which only an ill-formed unit holds, are read as they stand. Both decode to
one header, whose data starts at different bytes. -/
theorem parsers_dependOnPayload_sample :
    let escaped : List UInt8 :=
      [0x02, 0x01, 0x40, 0x08, 0x00, 0xb8, 0x66, 0x40, 0x80, 0x00, 0x00, 0x03, 0x00, 0x02, 0x12,
        0x34]
    let illFormed : List UInt8 :=
      [0x02, 0x01, 0x40, 0x08, 0x00, 0xb8, 0x66, 0x40, 0x80, 0x00, 0x00, 0x00, 0x02, 0x12, 0x34]
    let parse := Hevc.SliceSegment.ofUnit Hevc.SliceSegment.sampleSequences
      Hevc.SliceSegment.samplePictures
    (parse escaped).map (·.header) = (parse illFormed).map (·.header) ∧
      (parse escaped).toOption.map (·.dataOffset) = some 14 ∧
      (parse illFormed).toOption.map (·.dataOffset) = some 13 := by
  have same := parsers_dependOnPayload .empty .empty Hevc.SliceSegment.sampleSequences
    Hevc.SliceSegment.samplePictures
  refine ⟨same.2.2.2.2.2.2.2.1 _ _ (by decide), ?_, ?_⟩
  · decide +kernel
  · decide +kernel

end CodedVideo
