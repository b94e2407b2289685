import CodedVideo.Proofs.Avc.SliceGrammar
import CodedVideo.Proofs.Hevc.SliceData
import CodedVideo.Proofs.Hevc.SliceGrammar
import CodedVideo.Proofs.NalUnit.LaterBytes
import CodedVideo.Proofs.Vvc.SequenceGrammar

/-!
# Headers and the bytes behind them

What stands behind a header does not influence what is decoded of it. Cutting a unit short can only
have its parser report that the unit ends too early.

Main statement: `header_parsers_ignoreLaterBytes`.
-/

namespace CodedVideo

/-- The number of stored bytes in front of slice data does not depend on that data either, for no
inserted byte stands between the header and the data. -/
theorem Hevc.SliceSegment.ignoresLaterBytes_ofUnit (sequences : IdTable SequenceParameterSet)
    (pictures : IdTable PictureParameterSet) :
    IgnoresLaterBytes .truncated (ofUnit sequences pictures) := by
  intro unit tail
  rw [ofUnit_eq, ofUnit_eq]
  rcases (SliceHeader.decoder sequences pictures).run_extend_cases unit tail with
    ⟨name, offset, failed⟩ | ⟨result_eq, source_eq⟩
  · left
    exists name, offset
    simp only [failed]
    rfl
  · right
    rcases run_eq : (SliceHeader.decoder sequences pictures).run (EscapedReader.ofUnit unit) with
      ⟨error | header, last⟩
    · rw [run_eq] at result_eq
      simp only [result_eq]
      rfl
    · rw [run_eq] at result_eq source_eq
      have starts : (EscapedReader.ofUnit unit).source.ValidIn unit ∧
          (EscapedReader.ofUnit unit).position = 0 := ⟨EscapedSource.validIn_ofUnit unit, rfl⟩
      have cut := (SliceHeader.ensures_decoder sequences pictures _ last header starts run_eq).1
      rw [EscapedSource.passEscape_extend_of_no_zeros cut.no_zeros] at source_eq
      simp only [result_eq, source_eq]
      rfl

/-- Each parser that stops behind a header gives the result that it finds in a unit for every longer
unit too: a value, what was decoded up to a place where decoding stops, or an error. The only
exception is an error that says that the unit ends too early. -/
theorem header_parsers_ignoreLaterBytes
    (avcSequences : IdTable Avc.SequenceParameterSet)
    (avcPictures : IdTable Avc.PictureParameterSet)
    (hevcSequences : IdTable Hevc.SequenceParameterSet)
    (hevcPictures : IdTable Hevc.PictureParameterSet) :
    IgnoresLaterBytes .truncated (Avc.SliceHeader.ofUnit avcSequences avcPictures) ∧
      IgnoresLaterBytes .truncated Avc.SliceType.ofUnit ∧
      IgnoresLaterBytes .truncated (Hevc.SliceSegment.ofUnit hevcSequences hevcPictures) ∧
      IgnoresLaterBytes .truncated (Hevc.SliceType.ofUnit hevcSequences hevcPictures) ∧
      IgnoresLaterBytes (fun name offset => .failed (.truncated name offset))
        Vvc.SequenceParameterSet.ofUnit := by
  have avcHeader := (Avc.SliceHeader.decoder avcSequences avcPictures).ignoresLaterBytes_decodeUnit
  have avcType := Avc.SliceType.decoder.ignoresLaterBytes_decodeUnit
  have hevcSegment := Hevc.SliceSegment.ignoresLaterBytes_ofUnit hevcSequences hevcPictures
  have hevcType := (Hevc.SliceType.decoder hevcSequences hevcPictures).ignoresLaterBytes_decodeUnit
  have vvcSequence := Vvc.SequenceParameterSet.decoder.ignoresLaterBytes_decodeUnitPartly
  exact ⟨avcHeader, avcType, hevcSegment, hevcType, vvcSequence⟩

end CodedVideo
