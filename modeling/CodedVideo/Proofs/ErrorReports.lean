import CodedVideo.Proofs.Avc.Reports
import CodedVideo.Proofs.Hevc.Reports
import CodedVideo.Proofs.Vvc.Confinement

/-!
# Errors of all parsers and stores

Whatever bytes a parser or a store is given, its error names a structure, and where the data ends too
early, a bit of the payload. No grammar asks for more bits than one read can move.

Main statement: `errors_reported`.
-/

namespace CodedVideo

open Decoder (Yields)

/-- A sequence parameter set is always decoded up to a place where decoding stops on purpose. -/
theorem Vvc.SequenceParameterSet.reportsPartly_ofUnit (unit : List UInt8) :
    decoder.ReportsPartly unit (ofUnit unit) := by
  refine decoder.reportsPartly ?_ unit
  iterate 3 refine Yields.behind fun _ => ?_
  refine Yields.done ?_
  rintro _ ⟨⟩
  rfl

/-- Each parser of units, and each operation of a store, fails with no error but one that names a
structure. A truncation is inside the payload of the unit. Nothing that is read is wider than one
read can move, so no error stems from a width. Only slices and AVC picture parameter sets find a
parameter set absent, and what was decoded is kept only where the error says what is not supported.
The sets that HEVC slices refer to must have been decoded from units, as those of every store were.
-/
theorem errors_reported :
    (∀ (sequences : IdTable Avc.SequenceParameterSet) (pictures : IdTable Avc.PictureParameterSet)
        (unit : List UInt8), Avc.ParsersReport sequences pictures unit) ∧
      (∀ (sequences : IdTable Hevc.SequenceParameterSet)
        (pictures : IdTable Hevc.PictureParameterSet) (unit : List UInt8),
        Hevc.DecodedTable sequences → Hevc.DecodedPictureTable pictures →
          Hevc.ParsersReport sequences pictures unit) ∧
      (∀ unit : List UInt8, Vvc.SequenceParameterSet.decoder.ReportsPartly unit
        (Vvc.SequenceParameterSet.ofUnit unit)) ∧
      (∀ (operation : Avc.StoreOperation) (store : Avc.ParameterStore),
        operation.Reports store) ∧
      ∀ (limits : Hevc.StoreLimits) (operations : List Hevc.StoreOperation)
        (operation : Hevc.StoreOperation),
        operation.Reports (Hevc.ParameterStore.run limits operations).2 :=
  ⟨Avc.parsersReport,
    fun _ _ unit sequencesDecoded picturesDecoded =>
      Hevc.parsersReport sequencesDecoded picturesDecoded unit,
    Vvc.SequenceParameterSet.reportsPartly_ofUnit, Avc.StoreOperation.reports,
    fun limits operations operation =>
      operation.reports (Hevc.ParameterStore.holdsDecoded_run limits operations)⟩

/-- A slice that is cut inside its short-term set is truncated where the unit ends. -/
theorem errors_reported_cutSlice :
    Hevc.DecodedTable Hevc.chainSequences ∧ Hevc.DecodedPictureTable Hevc.chainPictures ∧
      ∃ error, Hevc.SliceSegment.ofUnit Hevc.chainSequences Hevc.chainPictures
          (Hevc.chainSlice.take 5) = .error error ∧
        error = .truncated "st_ref_pic_set" 40 ∧
        error.ReportedOn (Hevc.chainSlice.take 5) True := by
  have sequencesDecoded := Hevc.decodedTable_chainSequences
  have picturesDecoded := Hevc.decodedPictureTable_chainPictures
  have failed : Hevc.SliceSegment.ofUnit Hevc.chainSequences Hevc.chainPictures
      (Hevc.chainSlice.take 5) = .error (.truncated "st_ref_pic_set" 40) := by
    decide +kernel
  have reports := errors_reported.2.1 Hevc.chainSequences Hevc.chainPictures
    (Hevc.chainSlice.take 5) sequencesDecoded picturesDecoded
  exact ⟨sequencesDecoded, picturesDecoded, _, failed, rfl, reports.slice.isReported _ failed⟩

end CodedVideo
