import CodedVideo.Proofs.Avc.Confinement
import CodedVideo.Proofs.Avc.SliceGrammar
import CodedVideo.Proofs.Avc.StoreHistory
import CodedVideo.Proofs.Decoder.Reports

/-!
# What is reported of AVC units

Each parser of AVC units reports errors that can be reported of the unit, whatever the tables of
parameter sets hold. An operation of a store that fails reports an error of the parser that it
calls, unless a table is full or there is no unit.

Main statements: `parsersReport` and `StoreOperation.reports`.
-/

namespace CodedVideo.Avc

/-! ## Parsers -/

/-- What the parsers report of a unit. Only picture parameter sets and slice headers refer to
parameter sets. -/
structure ParsersReport (sequences : IdTable SequenceParameterSet)
    (pictures : IdTable PictureParameterSet) (unit : List UInt8) : Prop where
  sequenceSet : SequenceParameterSet.unitDecoder.Reports unit False
    (SequenceParameterSet.ofUnit unit)
  sequenceStages :
    (SequenceParameterSet.stages (EscapedReader.ofUnit unit)).2.Unrefused
  pictureSet : (PictureParameterSet.decoder sequences).Reports unit True
    (PictureParameterSet.ofUnit sequences unit)
  slice : (SliceHeader.decoder sequences pictures).Reports unit True
    (SliceHeader.ofUnit sequences pictures unit)
  sliceType : SliceType.decoder.Reports unit False (SliceType.ofUnit unit)

theorem parsersReport (sequences : IdTable SequenceParameterSet)
    (pictures : IdTable PictureParameterSet) (unit : List UInt8) :
    ParsersReport sequences pictures unit := by
  have ofGrammar : SequenceParameterSet.unitDecoder.Reports unit False
      (SequenceParameterSet.unitDecoder.decodeUnit unit) := Decoder.reports _ unit
  have unrefused := ofGrammar.unrefused
  rw [SequenceParameterSet.run_unitDecoder] at unrefused
  exact {
    sequenceSet := ofGrammar.of_map (SequenceParameterSet.map_withoutByteCounts_ofUnit unit)
    sequenceStages := unrefused
    pictureSet := (PictureParameterSet.decoder sequences).reports unit
    slice := (SliceHeader.decoder sequences pictures).reports unit
    sliceType := SliceType.decoder.reports unit }

/-! ## Operations of a store -/

namespace StoreOperation

/-- The unit that an operation is given. To clear a store takes none. -/
def unit : StoreOperation → List UInt8
  | addSequence unit => unit
  | addPicture unit => unit
  | addUnit unit => unit
  | readSlice unit => unit
  | clear => []

/-- The operation decodes a structure that refers to parameter sets. -/
def Refers (operation : StoreOperation) : Prop :=
  operation.pictureUnit?.isSome = true ∨ operation = readSlice operation.unit

/-- The ways in which an operation on a store can fail, each with the error. -/
inductive FailsWith (operation : StoreOperation) (store : ParameterStore) : Error → Prop where
  /-- A table has no room. -/
  | noRoom (description : String) : FailsWith operation store (.resourceExhausted description)
  /-- The type of the unit is not there. -/
  | isEmpty (isAdded : operation = addUnit []) :
      FailsWith operation store (.malformed "NAL unit header" "empty NAL unit")
  /-- The sequence parameter set that is offered cannot be decoded. -/
  | inSequence {error : Error} (offers : operation.sequenceUnit?.isSome = true)
      (failed : SequenceParameterSet.ofUnit operation.unit = .error error) :
      FailsWith operation store error
  /-- The picture parameter set that is offered cannot be decoded. -/
  | inPicture {error : Error} (offers : operation.pictureUnit?.isSome = true)
      (failed : PictureParameterSet.ofUnit store.sequences operation.unit = .error error) :
      FailsWith operation store error
  /-- The slice header cannot be decoded. -/
  | inSlice {error : Error} (isRead : operation = readSlice operation.unit)
      (failed : SliceHeader.ofUnit store.sequences store.pictures operation.unit = .error error) :
      FailsWith operation store error

/-- What is reported of the unit of an operation. -/
structure Reports (operation : StoreOperation) (store : ParameterStore) : Prop where
  failsWith : ∀ error, (operation.perform store).1 = .error error →
    operation.FailsWith store error
  isReported : ∀ error, (operation.perform store).1 = .error error →
    error.ReportedOn operation.unit operation.Refers
  parsers : ParsersReport store.sequences store.pictures operation.unit

variable {operation : StoreOperation} {store : ParameterStore} {error : Error}

theorem failsWith_addSequence (offers : operation.sequenceUnit?.isSome = true)
    (failed : store.addSequence operation.unit = .error error) :
    operation.FailsWith store error := by
  rcases InPlace.of_takeIfRoom_eq_error failed with notDecoded | rfl
  · exact .inSequence offers notDecoded
  · exact .noRoom _

theorem failsWith_addPicture (offers : operation.pictureUnit?.isSome = true)
    (failed : store.addPicture operation.unit = .error error) :
    operation.FailsWith store error := by
  rcases InPlace.of_takeIfRoom_eq_error failed with notDecoded | rfl
  · exact .inPicture offers notDecoded
  · exact .noRoom _

/-- An operation that fails does so in one of the ways. -/
theorem failsWith_of_perform (failed : (operation.perform store).1 = .error error) :
    operation.FailsWith store error := by
  rw [perform_apply, InPlace.atOnce_eq_error_iff] at failed
  cases operation with
  | addSequence unit => exact failsWith_addSequence rfl (Error.map_eq_error_iff.mp failed)
  | addPicture unit => exact failsWith_addPicture rfl (Error.map_eq_error_iff.mp failed)
  | addUnit unit =>
      rw [result, ParameterStore.addUnit] at failed
      split at failed
      · next isEmpty =>
        cases failed
        exact .isEmpty (by simpa [NalUnitType.ofUnit?] using isEmpty)
      · next isSequence =>
        rw [InPlace.map_answer_with, Error.map_eq_error_iff] at failed
        exact failsWith_addSequence (by simp [sequenceUnit?, isSequence]) failed
      · next isPicture =>
        rw [InPlace.map_answer_with, Error.map_eq_error_iff] at failed
        exact failsWith_addPicture (by simp [pictureUnit?, isPicture]) failed
      · cases failed
  | readSlice unit => exact .inSlice rfl (Error.map_eq_error_iff.mp failed)
  | clear => cases failed

/-- Each error with which an operation fails can be reported of its unit. -/
theorem reports (operation : StoreOperation) (store : ParameterStore) :
    operation.Reports store := by
  have parsers := parsersReport store.sequences store.pictures operation.unit
  refine ⟨fun _ => failsWith_of_perform, fun error failed => ?_, parsers⟩
  cases failsWith_of_perform failed with
  | noRoom => exact .of_raised _
  | isEmpty => exact .of_raised _
  | inSequence offers failed => exact (parsers.sequenceSet.isReported error failed).weaken nofun
  | inPicture offers failed =>
      exact (parsers.pictureSet.isReported error failed).weaken fun _ => Or.inl offers
  | inSlice isRead failed =>
      exact (parsers.slice.isReported error failed).weaken fun _ => Or.inr isRead

end StoreOperation

end CodedVideo.Avc
