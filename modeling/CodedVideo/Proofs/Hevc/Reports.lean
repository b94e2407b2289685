import CodedVideo.Proofs.Decoder.Reports
import CodedVideo.Proofs.Hevc.SliceConfinement
import CodedVideo.Proofs.Hevc.StoreHistory

/-!
# What is reported of HEVC units

Each parser of HEVC units reports errors that can be reported of the unit. For a slice this rests on
the tables of parameter sets, whose sets must have been decoded from units. They were in every
store, whatever operations were performed on it, so whatever an operation of a store reports can be
reported of its unit.

Main statements: `parsersReport`, `ParameterStore.holdsDecoded_run` and `StoreOperation.reports`.
-/

namespace CodedVideo.Hevc

open Decoder (Yields)

/-! ## Parsers -/

/-- What the parsers report of a unit. Only slices refer to parameter sets, and only sequence and
picture parameter sets are kept where decoding stops on purpose. -/
structure ParsersReport (sequences : IdTable SequenceParameterSet)
    (pictures : IdTable PictureParameterSet) (unit : List UInt8) : Prop where
  videoSet : VideoParameterSet.decoder.Reports unit False (VideoParameterSet.ofUnit unit)
  sequenceSet : SequenceParameterSet.decoder.ReportsPartly unit (SequenceParameterSet.ofUnit unit)
  pictureSet : PictureParameterSet.decoder.ReportsPartly unit (PictureParameterSet.ofUnit unit)
  slice : (SliceHeader.decoder sequences pictures).Reports unit True
    (SliceSegment.ofUnit sequences pictures unit)
  sliceType : (SliceType.decoder sequences pictures).Reports unit True
    (SliceType.ofUnit sequences pictures unit)

/-- A set is decoded up to its extensions only if those are not supported. -/
theorem stops_closeDecoder {α : Type} (structureName feature : String) (extended : α → Bool)
    (set : α) : Yields (closeDecoder structureName feature extended set) fun result =>
      ∀ error, result.2 = some error → error.isUnsupported = true := by
  unfold closeDecoder
  split
  · refine Yields.done ?_
    rintro _ ⟨⟩
    rfl
  · exact Yields.behind fun _ => Yields.done nofun

theorem parsersReport {sequences : IdTable SequenceParameterSet}
    {pictures : IdTable PictureParameterSet} (sequencesDecoded : DecodedTable sequences)
    (picturesDecoded : DecodedPictureTable pictures) (unit : List UInt8) :
    ParsersReport sequences pictures unit where
  videoSet := VideoParameterSet.decoder.reports unit
  sequenceSet := by
    refine SequenceParameterSet.decoder.reportsPartly ?_ unit
    rw [SequenceParameterSet.decoder_eq]
    exact Yields.behind fun set => stops_closeDecoder _ _ _ set
  pictureSet := by
    refine PictureParameterSet.decoder.reportsPartly ?_ unit
    rw [PictureParameterSet.decoder_eq]
    exact Yields.behind fun set => stops_closeDecoder _ _ _ set
  slice := by
    have confined : (SliceHeader.decoder sequences pictures).Confined 0 True :=
      SliceHeader.confined_decoder sequencesDecoded picturesDecoded
    refine ((SliceHeader.decoder sequences pictures).reports unit).of_error_iff fun error => ?_
    rw [SliceSegment.ofUnit_eq]
    exact Error.map_eq_error_iff
  sliceType := by
    have confined : (SliceType.decoder sequences pictures).Confined 0 True :=
      SliceType.confined_decoder picturesDecoded
    exact (SliceType.decoder sequences pictures).reports unit

/-! ## Tables of a store -/

/-- The sets that a store holds for slices to refer to were decoded, at least up to their
extensions. -/
structure ParameterStore.HoldsDecoded (store : ParameterStore) : Prop where
  sequences : DecodedTable store.sequences
  pictures : DecodedPictureTable store.pictures

theorem ParameterStore.holdsDecoded_empty (limits : StoreLimits) :
    HoldsDecoded { limits } where
  sequences := IdTable.forall_get?_empty
  pictures := IdTable.forall_get?_empty

namespace StoreOperation

variable {operation : StoreOperation} {store : ParameterStore} {error : Error}

theorem exists_unit_of_sequence? {set : SequenceParameterSet}
    (isOffered : operation.sequence? = some set) :
    ∃ unit, Interruption.keepDecoded (SequenceParameterSet.ofUnit unit) = .ok set :=
  InPlace.exists_unit_of_offered isOffered

theorem exists_unit_of_picture? {set : PictureParameterSet}
    (isOffered : operation.picture? = some set) :
    ∃ unit, Interruption.keepDecoded (PictureParameterSet.ofUnit unit) = .ok set :=
  InPlace.exists_unit_of_offered isOffered

/-- What an operation puts into a table was decoded from the unit that it offers. -/
theorem holdsDecoded_perform (operation : StoreOperation) (holds : store.HoldsDecoded) :
    (operation.perform store).2.HoldsDecoded := by
  have ends := operation.ends_perform store
  generalize operation.perform store = result at ends ⊢
  cases ends with
  | refused => exact holds
  | answered => exact holds
  | tookVideo => exact ⟨holds.sequences, holds.pictures⟩
  | tookSequence _ set isOffered =>
      refine ⟨?_, holds.pictures⟩
      exact IdTable.forall_get?_insert holds.sequences _ (exists_unit_of_sequence? isOffered)
  | tookPicture _ set isOffered =>
      refine ⟨holds.sequences, ?_⟩
      exact IdTable.forall_get?_insert holds.pictures _ (exists_unit_of_picture? isOffered)
  | cleared => exact ParameterStore.holdsDecoded_empty store.limits

end StoreOperation

/-- Behind every run of operations each set was decoded. -/
theorem ParameterStore.holdsDecoded_run (limits : StoreLimits) (operations : List StoreOperation) :
    (run limits operations).2.HoldsDecoded :=
  InPlace.performAll_invariant (fun _ (store : ParameterStore) => store.HoldsDecoded)
    (holdsDecoded_empty limits)
    (fun _ _ operation holds => operation.holdsDecoded_perform holds) operations

/-! ## Operations of a store -/

namespace StoreOperation

/-- The unit that an operation is given. To clear a store takes none. -/
def unit : StoreOperation → List UInt8
  | addVideo unit => unit
  | addSequence unit => unit
  | addPicture unit => unit
  | addUnit unit => unit
  | readSlice unit => unit
  | clear => []

/-- The operation decodes a structure that refers to parameter sets. -/
def Refers (operation : StoreOperation) : Prop :=
  operation = readSlice operation.unit

/-- The ways in which an operation on a store can fail, each with the error. -/
inductive FailsWith (operation : StoreOperation) (store : ParameterStore) : Error → Prop where
  /-- A table has no room. -/
  | noRoom (description : String) : FailsWith operation store (.resourceExhausted description)
  /-- The type of the unit is not there. -/
  | isEmpty (isAdded : operation = addUnit []) :
      FailsWith operation store (.malformed "NAL unit header" "empty NAL unit")
  /-- The video parameter set that is offered cannot be decoded. -/
  | inVideo {error : Error} (offers : operation.videoUnit?.isSome = true)
      (failed : VideoParameterSet.ofUnit operation.unit = .error error) :
      FailsWith operation store error
  /-- The sequence parameter set that is offered cannot be decoded, not even up to its
  extensions. -/
  | inSequence {error : Error} (offers : operation.sequenceUnit?.isSome = true)
      (failed : Interruption.keepDecoded (SequenceParameterSet.ofUnit operation.unit) =
        .error error) : FailsWith operation store error
  /-- The picture parameter set that is offered cannot be decoded, not even up to its extensions. -/
  | inPicture {error : Error} (offers : operation.pictureUnit?.isSome = true)
      (failed : Interruption.keepDecoded (PictureParameterSet.ofUnit operation.unit) =
        .error error) : FailsWith operation store error
  /-- The slice segment header cannot be decoded. -/
  | inSlice {error : Error} (isRead : operation = readSlice operation.unit)
      (failed : SliceSegment.ofUnit store.sequences store.pictures operation.unit =
        .error error) : FailsWith operation store error

/-- What is reported of the unit of an operation. -/
structure Reports (operation : StoreOperation) (store : ParameterStore) : Prop where
  failsWith : ∀ error, (operation.perform store).1 = .error error →
    operation.FailsWith store error
  isReported : ∀ error, (operation.perform store).1 = .error error →
    error.ReportedOn operation.unit operation.Refers
  parsers : ParsersReport store.sequences store.pictures operation.unit

variable {operation : StoreOperation} {store : ParameterStore} {error : Error}

theorem failsWith_addVideo (offers : operation.videoUnit?.isSome = true)
    (failed : store.addVideo operation.unit = .error error) :
    operation.FailsWith store error := by
  rcases InPlace.of_takeIfRoom_eq_error failed with notDecoded | rfl
  · exact .inVideo offers notDecoded
  · exact .noRoom _

theorem failsWith_addSequence (offers : operation.sequenceUnit?.isSome = true)
    (failed : store.addSequence operation.unit = .error error) :
    operation.FailsWith store error := by
  rcases InPlace.of_takeIfRoom_eq_error failed with notDecoded | rfl
  · exact .inSequence offers notDecoded
  · exact .noRoom _

theorem failsWith_addPicture (offers : operation.pictureUnit?.isSome = true)
    (failed : store.addPicture operation.unit = .error error) :
    operation.FailsWith store error := by
  rcases InPlace.of_takeIfRoom_eq_error failed with notDecoded | rfl
  · exact .inPicture offers notDecoded
  · exact .noRoom _

/-- An operation that fails does so in one of the ways. -/
theorem failsWith_of_perform (failed : (operation.perform store).1 = .error error) :
    operation.FailsWith store error := by
  rw [perform_apply, InPlace.atOnce_eq_error_iff] at failed
  cases operation with
  | addVideo unit => exact failsWith_addVideo rfl (Error.map_eq_error_iff.mp failed)
  | addSequence unit => exact failsWith_addSequence rfl (Error.map_eq_error_iff.mp failed)
  | addPicture unit => exact failsWith_addPicture rfl (Error.map_eq_error_iff.mp failed)
  | addUnit unit =>
      rw [result, ParameterStore.addUnit] at failed
      split at failed
      · next isEmpty =>
        cases failed
        exact .isEmpty (by simpa [NalUnitType.ofUnit?] using isEmpty)
      · next isVideo =>
        rw [InPlace.map_answer_with, Error.map_eq_error_iff] at failed
        exact failsWith_addVideo (by simp [videoUnit?, isVideo]) failed
      · next isSequence =>
        rw [InPlace.map_answer_with, Error.map_eq_error_iff] at failed
        exact failsWith_addSequence (by simp [sequenceUnit?, isSequence]) failed
      · next isPicture =>
        rw [InPlace.map_answer_with, Error.map_eq_error_iff] at failed
        exact failsWith_addPicture (by simp [pictureUnit?, isPicture]) failed
      · cases failed
  | readSlice unit => exact .inSlice rfl (Error.map_eq_error_iff.mp failed)
  | clear => cases failed

/-- Each error with which an operation fails can be reported of its unit. -/
theorem reports (operation : StoreOperation) (holds : store.HoldsDecoded) :
    operation.Reports store := by
  have parsers := parsersReport holds.sequences holds.pictures operation.unit
  refine ⟨fun _ => failsWith_of_perform, fun error failed => ?_, parsers⟩
  cases failsWith_of_perform failed with
  | noRoom => exact .of_raised _
  | isEmpty => exact .of_raised _
  | inVideo offers failed => exact (parsers.videoSet.isReported error failed).weaken nofun
  | inSequence offers failed => exact (parsers.sequenceSet.isReported error failed).weaken nofun
  | inPicture offers failed => exact (parsers.pictureSet.isReported error failed).weaken nofun
  | inSlice isRead failed => exact (parsers.slice.isReported error failed).weaken fun _ => isRead

end StoreOperation

end CodedVideo.Hevc
