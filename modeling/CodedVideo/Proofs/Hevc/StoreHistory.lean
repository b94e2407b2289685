import CodedVideo.Hevc.ParameterStore
import CodedVideo.Proofs.IdTable
import CodedVideo.Proofs.InPlace

/-!
# Histories of HEVC parameter stores

The operations of a store are sequences of steps that change it in place, as those of an AVC store
are. There are three tables, and a sequence or picture parameter set counts as decoded also where it
was decoded only up to its extensions. Behind every run of operations each table holds what was
taken last under each identifier since the store was cleared last, and an operation that fails has
changed nothing.

Main statements: `ParameterStore.follows_run` and `StoreOperation.lawful`.
-/

namespace CodedVideo.Hevc

/-! ## Operations in place -/

namespace ParameterStore

/-- Takes a video parameter set step by step. No identifier is noted. -/
def addVideoInPlace (unit : List UInt8) : InPlace ParameterStore Nat := do
  let set ← MonadExcept.ofExcept (VideoParameterSet.ofUnit unit)
  InPlace.putIfRoom (fun store => store.videos.hasRoomFor set.id store.limits.videos)
    (.resourceExhausted "VPS count limit exceeded")
    (fun store => { store with videos := store.videos.insert set.id set }) id set.id

/-- Takes a sequence parameter set step by step. -/
def addSequenceInPlace (unit : List UInt8) : InPlace ParameterStore Nat := do
  let set ← MonadExcept.ofExcept (Interruption.keepDecoded (SequenceParameterSet.ofUnit unit))
  InPlace.putIfRoom (fun store => store.sequences.hasRoomFor set.id store.limits.sequences)
    (.resourceExhausted "SPS count limit exceeded")
    (fun store => { store with sequences := store.sequences.insert set.id set })
    (fun store => { store with activeSequenceId := some set.id }) set.id

/-- Takes a picture parameter set step by step. -/
def addPictureInPlace (unit : List UInt8) : InPlace ParameterStore Nat := do
  let set ← MonadExcept.ofExcept (Interruption.keepDecoded (PictureParameterSet.ofUnit unit))
  InPlace.putIfRoom (fun store => store.pictures.hasRoomFor set.id store.limits.pictures)
    (.resourceExhausted "PPS count limit exceeded")
    (fun store => { store with pictures := store.pictures.insert set.id set })
    (fun store => { store with activePictureId := some set.id }) set.id

/-- Takes a unit step by step if it is a parameter set. -/
def addUnitInPlace (unit : List UInt8) : InPlace ParameterStore NalUnitType :=
  match NalUnitType.ofUnit? unit with
  | none => throw (.malformed "NAL unit header" "empty NAL unit")
  | some .vps => (fun _ => .vps) <$> addVideoInPlace unit
  | some .sps => (fun _ => .sps) <$> addSequenceInPlace unit
  | some .pps => (fun _ => .pps) <$> addPictureInPlace unit
  | some unitType => return unitType

theorem addVideoInPlace_apply (unit : List UInt8) (store : ParameterStore) :
    addVideoInPlace unit store = InPlace.atOnce (store.addVideo unit) store := by
  rw [addVideoInPlace, InPlace.ofExcept_bind_putIfRoom_apply]
  rfl

theorem addSequenceInPlace_apply (unit : List UInt8) (store : ParameterStore) :
    addSequenceInPlace unit store = InPlace.atOnce (store.addSequence unit) store := by
  rw [addSequenceInPlace, InPlace.ofExcept_bind_putIfRoom_apply]
  rfl

theorem addPictureInPlace_apply (unit : List UInt8) (store : ParameterStore) :
    addPictureInPlace unit store = InPlace.atOnce (store.addPicture unit) store := by
  rw [addPictureInPlace, InPlace.ofExcept_bind_putIfRoom_apply]
  rfl

theorem addUnitInPlace_apply (unit : List UInt8) (store : ParameterStore) :
    addUnitInPlace unit store = InPlace.atOnce (store.addUnit unit) store := by
  rw [addUnitInPlace, addUnit]
  generalize NalUnitType.ofUnit? unit = unitType?
  split
  · rfl
  · rw [InPlace.map_apply, addVideoInPlace_apply]
    cases store.addVideo unit with
    | error error => rfl
    | ok result => rfl
  · rw [InPlace.map_apply, addSequenceInPlace_apply]
    cases store.addSequence unit with
    | error error => rfl
    | ok result => rfl
  · rw [InPlace.map_apply, addPictureInPlace_apply]
    cases store.addPicture unit with
    | error error => rfl
    | ok result => rfl
  · simp only [InPlace.atOnce]
    rfl

end ParameterStore

/-! ## Operations -/

/-- An operation of a store. -/
inductive StoreOperation where
  /-- Take a video parameter set. -/
  | addVideo (unit : List UInt8)
  /-- Take a sequence parameter set. -/
  | addSequence (unit : List UInt8)
  /-- Take a picture parameter set. -/
  | addPicture (unit : List UInt8)
  /-- Take a unit if it is a parameter set. -/
  | addUnit (unit : List UInt8)
  /-- Decode a slice segment header. -/
  | readSlice (unit : List UInt8)
  /-- Forget every parameter set. -/
  | clear
deriving DecidableEq, Repr

/-- What an operation answers with. -/
inductive StoreAnswer where
  | id (id : Nat)
  | unitType (unitType : NalUnitType)
  | slice (segment : SliceSegment)
  | done

namespace StoreOperation

/-- Performs an operation on a store. -/
def perform : StoreOperation → InPlace ParameterStore StoreAnswer
  | addVideo unit => .id <$> ParameterStore.addVideoInPlace unit
  | addSequence unit => .id <$> ParameterStore.addSequenceInPlace unit
  | addPicture unit => .id <$> ParameterStore.addPictureInPlace unit
  | addUnit unit => .unitType <$> ParameterStore.addUnitInPlace unit
  | readSlice unit => do
      let store ← get
      .slice <$> MonadExcept.ofExcept (store.sliceSegment unit)
  | clear => do
      modify ParameterStore.clear
      return .done

/-- What an operation does at once: it answers and gives another store, or it fails. -/
def result : StoreOperation → ParameterStore → Except Error (StoreAnswer × ParameterStore)
  | addVideo unit, store => (store.addVideo unit).map (Prod.map .id id)
  | addSequence unit, store => (store.addSequence unit).map (Prod.map .id id)
  | addPicture unit, store => (store.addPicture unit).map (Prod.map .id id)
  | addUnit unit, store => (store.addUnit unit).map (Prod.map .unitType id)
  | readSlice unit, store => (store.sliceSegment unit).map fun segment => (.slice segment, store)
  | clear, store => .ok (.done, store.clear)

/-- The unit that an operation offers as a video parameter set. -/
def videoUnit? : StoreOperation → Option (List UInt8)
  | addVideo unit => some unit
  | addUnit unit => if NalUnitType.ofUnit? unit = some .vps then some unit else none
  | _ => none

/-- The unit that an operation offers as a sequence parameter set. -/
def sequenceUnit? : StoreOperation → Option (List UInt8)
  | addSequence unit => some unit
  | addUnit unit => if NalUnitType.ofUnit? unit = some .sps then some unit else none
  | _ => none

/-- The unit that an operation offers as a picture parameter set. -/
def pictureUnit? : StoreOperation → Option (List UInt8)
  | addPicture unit => some unit
  | addUnit unit => if NalUnitType.ofUnit? unit = some .pps then some unit else none
  | _ => none

/-- The video parameter set that is decoded from the unit an operation offers. -/
def video? (operation : StoreOperation) : Option VideoParameterSet :=
  operation.videoUnit?.bind fun unit => (VideoParameterSet.ofUnit unit).toOption

/-- The sequence parameter set that is decoded, at least up to its extensions, from the unit an
operation offers. -/
def sequence? (operation : StoreOperation) : Option SequenceParameterSet :=
  operation.sequenceUnit?.bind fun unit =>
    (Interruption.keepDecoded (SequenceParameterSet.ofUnit unit)).toOption

/-- The picture parameter set that is decoded, at least up to its extensions, from the unit an
operation offers. -/
def picture? (operation : StoreOperation) : Option PictureParameterSet :=
  operation.pictureUnit?.bind fun unit =>
    (Interruption.keepDecoded (PictureParameterSet.ofUnit unit)).toOption

/-- The ways in which an operation on a store can end, each with the reason. -/
inductive Ends (operation : StoreOperation) (store : ParameterStore) :
    Except Error StoreAnswer × ParameterStore → Prop where
  /-- Nothing is taken: what is offered cannot be decoded or finds no room. -/
  | refused (error : Error)
      (noVideo : ∀ set, operation.video? = some set →
        store.videos.hasRoomFor set.id store.limits.videos = false)
      (noSequence : ∀ set, operation.sequence? = some set →
        store.sequences.hasRoomFor set.id store.limits.sequences = false)
      (noPicture : ∀ set, operation.picture? = some set →
        store.pictures.hasRoomFor set.id store.limits.pictures = false)
      (notClear : operation ≠ clear) : Ends operation store (.error error, store)
  /-- Nothing is offered. -/
  | answered (answer : StoreAnswer) (noVideo : operation.videoUnit? = none)
      (noSequence : operation.sequenceUnit? = none) (noPicture : operation.pictureUnit? = none)
      (notClear : operation ≠ clear) : Ends operation store (.ok answer, store)
  /-- A video parameter set is taken. -/
  | tookVideo (answer : StoreAnswer) (set : VideoParameterSet)
      (isOffered : operation.video? = some set) (noSequence : operation.sequenceUnit? = none)
      (noPicture : operation.pictureUnit? = none) (notClear : operation ≠ clear)
      (hasRoom : store.videos.hasRoomFor set.id store.limits.videos = true) :
      Ends operation store (.ok answer, { store with videos := store.videos.insert set.id set })
  /-- A sequence parameter set is taken. -/
  | tookSequence (answer : StoreAnswer) (set : SequenceParameterSet)
      (isOffered : operation.sequence? = some set) (noVideo : operation.videoUnit? = none)
      (noPicture : operation.pictureUnit? = none) (notClear : operation ≠ clear)
      (hasRoom : store.sequences.hasRoomFor set.id store.limits.sequences = true) :
      Ends operation store (.ok answer, { store with
        sequences := store.sequences.insert set.id set
        activeSequenceId := some set.id })
  /-- A picture parameter set is taken. -/
  | tookPicture (answer : StoreAnswer) (set : PictureParameterSet)
      (isOffered : operation.picture? = some set) (noVideo : operation.videoUnit? = none)
      (noSequence : operation.sequenceUnit? = none) (notClear : operation ≠ clear)
      (hasRoom : store.pictures.hasRoomFor set.id store.limits.pictures = true) :
      Ends operation store (.ok answer, { store with
        pictures := store.pictures.insert set.id set
        activePictureId := some set.id })
  /-- Every set is forgotten. -/
  | cleared (isClear : operation = clear) : Ends operation store (.ok .done, store.clear)

variable {operation : StoreOperation} {store : ParameterStore} {unit : List UInt8}

/-- The steps of an operation come to what is done at once. -/
theorem perform_apply (operation : StoreOperation) (store : ParameterStore) :
    operation.perform store = InPlace.atOnce (operation.result store) store := by
  cases operation with
  | addVideo unit =>
      rw [perform, result, InPlace.map_apply, ParameterStore.addVideoInPlace_apply,
        InPlace.map_atOnce]
  | addSequence unit =>
      rw [perform, result, InPlace.map_apply, ParameterStore.addSequenceInPlace_apply,
        InPlace.map_atOnce]
  | addPicture unit =>
      rw [perform, result, InPlace.map_apply, ParameterStore.addPictureInPlace_apply,
        InPlace.map_atOnce]
  | addUnit unit =>
      rw [perform, result, InPlace.map_apply, ParameterStore.addUnitInPlace_apply,
        InPlace.map_atOnce]
  | readSlice unit =>
      rw [perform, result, InPlace.get_bind_apply, InPlace.map_apply]
      generalize store.sliceSegment unit = result
      cases result with
      | error error => rfl
      | ok header => rfl
  | clear => rfl

/-- What is offered is decoded to the video parameter set of its unit. -/
theorem video?_eq (offers : operation.videoUnit? = some unit) :
    operation.video? = (VideoParameterSet.ofUnit unit).toOption := by
  rw [video?, offers]
  rfl

theorem sequence?_eq (offers : operation.sequenceUnit? = some unit) :
    operation.sequence? =
      (Interruption.keepDecoded (SequenceParameterSet.ofUnit unit)).toOption := by
  rw [sequence?, offers]
  rfl

theorem picture?_eq (offers : operation.pictureUnit? = some unit) :
    operation.picture? = (Interruption.keepDecoded (PictureParameterSet.ofUnit unit)).toOption := by
  rw [picture?, offers]
  rfl

theorem video?_eq_none (noVideo : operation.videoUnit? = none) : operation.video? = none := by
  rw [video?, noVideo]
  rfl

theorem sequence?_eq_none (noSequence : operation.sequenceUnit? = none) :
    operation.sequence? = none := by
  rw [sequence?, noSequence]
  rfl

theorem picture?_eq_none (noPicture : operation.pictureUnit? = none) :
    operation.picture? = none := by
  rw [picture?, noPicture]
  rfl

/-- No video parameter set finds room where none is offered. -/
theorem refuses_video (noVideo : operation.videoUnit? = none) :
    ∀ set, operation.video? = some set →
      store.videos.hasRoomFor set.id store.limits.videos = false :=
  InPlace.refuses_of_eq_none (video?_eq_none noVideo) _

theorem refuses_sequence (noSequence : operation.sequenceUnit? = none) :
    ∀ set, operation.sequence? = some set →
      store.sequences.hasRoomFor set.id store.limits.sequences = false :=
  InPlace.refuses_of_eq_none (sequence?_eq_none noSequence) _

theorem refuses_picture (noPicture : operation.pictureUnit? = none) :
    ∀ set, operation.picture? = some set →
      store.pictures.hasRoomFor set.id store.limits.pictures = false :=
  InPlace.refuses_of_eq_none (picture?_eq_none noPicture) _

/-- Taking a video parameter set ends in one of the ways. -/
theorem ends_addVideo (offers : operation.videoUnit? = some unit)
    (noSequence : operation.sequenceUnit? = none) (noPicture : operation.pictureUnit? = none)
    (notClear : operation ≠ clear) (form : Nat → StoreAnswer) :
    Ends operation store
      (InPlace.atOnce ((store.addVideo unit).map (Prod.map form id)) store) := by
  refine InPlace.takeIfRoom_cases form (fun set isDecoded hasRoom => ?_) fun error refuses => ?_
  · have isOffered := (video?_eq offers).trans isDecoded
    exact Ends.tookVideo _ set isOffered noSequence noPicture notClear hasRoom
  · rw [← video?_eq offers] at refuses
    exact Ends.refused error refuses (refuses_sequence noSequence) (refuses_picture noPicture)
      notClear

/-- Taking a sequence parameter set ends in one of the ways. -/
theorem ends_addSequence (offers : operation.sequenceUnit? = some unit)
    (noVideo : operation.videoUnit? = none) (noPicture : operation.pictureUnit? = none)
    (notClear : operation ≠ clear) (form : Nat → StoreAnswer) :
    Ends operation store
      (InPlace.atOnce ((store.addSequence unit).map (Prod.map form id)) store) := by
  refine InPlace.takeIfRoom_cases form (fun set isDecoded hasRoom => ?_) fun error refuses => ?_
  · have isOffered := (sequence?_eq offers).trans isDecoded
    exact Ends.tookSequence _ set isOffered noVideo noPicture notClear hasRoom
  · rw [← sequence?_eq offers] at refuses
    exact Ends.refused error (refuses_video noVideo) refuses (refuses_picture noPicture) notClear

/-- Taking a picture parameter set ends in one of the ways. -/
theorem ends_addPicture (offers : operation.pictureUnit? = some unit)
    (noVideo : operation.videoUnit? = none) (noSequence : operation.sequenceUnit? = none)
    (notClear : operation ≠ clear) (form : Nat → StoreAnswer) :
    Ends operation store
      (InPlace.atOnce ((store.addPicture unit).map (Prod.map form id)) store) := by
  refine InPlace.takeIfRoom_cases form (fun set isDecoded hasRoom => ?_) fun error refuses => ?_
  · have isOffered := (picture?_eq offers).trans isDecoded
    exact Ends.tookPicture _ set isOffered noVideo noSequence notClear hasRoom
  · rw [← picture?_eq offers] at refuses
    exact Ends.refused error (refuses_video noVideo) (refuses_sequence noSequence) refuses notClear

/-- An operation that offers nothing and fails is refused. -/
theorem ends_refused (noVideo : operation.videoUnit? = none)
    (noSequence : operation.sequenceUnit? = none) (noPicture : operation.pictureUnit? = none)
    (notClear : operation ≠ clear) (error : Error) : Ends operation store (.error error, store) :=
  Ends.refused error (refuses_video noVideo) (refuses_sequence noSequence)
    (refuses_picture noPicture) notClear

/-- Each operation ends in one of the ways. -/
theorem ends_perform (operation : StoreOperation) (store : ParameterStore) :
    Ends operation store (operation.perform store) := by
  rw [perform_apply]
  cases operation with
  | addVideo unit => exact ends_addVideo rfl rfl rfl (by simp) _
  | addSequence unit => exact ends_addSequence rfl rfl rfl (by simp) _
  | addPicture unit => exact ends_addPicture rfl rfl rfl (by simp) _
  | addUnit unit =>
      rw [result, ParameterStore.addUnit]
      split
      · next isEmpty =>
        exact ends_refused (by simp [videoUnit?, isEmpty]) (by simp [sequenceUnit?, isEmpty])
          (by simp [pictureUnit?, isEmpty]) (by simp) _
      · next isVideo =>
        have offers : (addUnit unit).videoUnit? = some unit := by
          simp [videoUnit?, isVideo]
        rw [InPlace.map_answer_with]
        exact ends_addVideo offers (by simp [sequenceUnit?, isVideo])
          (by simp [pictureUnit?, isVideo]) (by simp) fun _ => .unitType .vps
      · next isSequence =>
        have offers : (addUnit unit).sequenceUnit? = some unit := by
          simp [sequenceUnit?, isSequence]
        rw [InPlace.map_answer_with]
        exact ends_addSequence offers (by simp [videoUnit?, isSequence])
          (by simp [pictureUnit?, isSequence]) (by simp) fun _ => .unitType .sps
      · next isPicture =>
        have offers : (addUnit unit).pictureUnit? = some unit := by
          simp [pictureUnit?, isPicture]
        rw [InPlace.map_answer_with]
        exact ends_addPicture offers (by simp [videoUnit?, isPicture])
          (by simp [sequenceUnit?, isPicture]) (by simp) fun _ => .unitType .pps
      · next unitType notVideo notSequence notPicture type_eq =>
        refine Ends.answered _ ?_ ?_ ?_ (by simp)
        · simpa [videoUnit?, type_eq] using notVideo
        · simpa [sequenceUnit?, type_eq] using notSequence
        · simpa [pictureUnit?, type_eq] using notPicture
  | readSlice unit =>
      rw [result]
      cases store.sliceSegment unit with
      | error error => exact ends_refused rfl rfl rfl (by simp) error
      | ok header => exact Ends.answered _ rfl rfl rfl (by simp)
  | clear => exact Ends.cleared rfl

end StoreOperation

/-! ## Laws of single operations -/

/-- What every operation does with every store. -/
structure StoreOperation.Lawful (operation : StoreOperation) (store : ParameterStore) : Prop where
  /-- The steps of the operation come to what it does at once. -/
  atOnce : operation.perform store = InPlace.atOnce (operation.result store) store
  /-- An operation that fails leaves the store as it was. -/
  unchanged : ∀ error, (operation.perform store).1 = .error error →
    (operation.perform store).2 = store
  /-- Only an operation that offers a video parameter set changes the table of those. -/
  videos_eq : operation.videoUnit? = none → operation ≠ .clear →
    (operation.perform store).2.videos = store.videos
  /-- Only an operation that offers a sequence parameter set changes the table of those. -/
  sequences_eq : operation.sequenceUnit? = none → operation ≠ .clear →
    (operation.perform store).2.sequences = store.sequences ∧
      (operation.perform store).2.activeSequenceId = store.activeSequenceId
  /-- Only an operation that offers a picture parameter set changes the table of those. -/
  pictures_eq : operation.pictureUnit? = none → operation ≠ .clear →
    (operation.perform store).2.pictures = store.pictures ∧
      (operation.perform store).2.activePictureId = store.activePictureId
  /-- A sequence parameter set is decoded if at least all of it before its extensions is. -/
  decodesSequence : ∀ unit set, operation.sequenceUnit? = some unit →
    (operation.sequence? = some set ↔ SequenceParameterSet.ofUnit unit = .ok set ∨
      ∃ error, SequenceParameterSet.ofUnit unit = .error (.incomplete set error))
  /-- A picture parameter set is decoded if at least all of it before its extensions is. -/
  decodesPicture : ∀ unit set, operation.pictureUnit? = some unit →
    (operation.picture? = some set ↔ PictureParameterSet.ofUnit unit = .ok set ∨
      ∃ error, PictureParameterSet.ofUnit unit = .error (.incomplete set error))
  /-- A video parameter set is accepted if it is decoded and finds room. -/
  acceptsVideo : operation.videoUnit?.isSome = true →
    ((operation.perform store).1.isOk = true ↔ ∃ set, operation.video? = some set ∧
      store.videos.hasRoomFor set.id store.limits.videos = true)
  /-- A sequence parameter set is accepted if it is decoded and finds room. -/
  acceptsSequence : operation.sequenceUnit?.isSome = true →
    ((operation.perform store).1.isOk = true ↔ ∃ set, operation.sequence? = some set ∧
      store.sequences.hasRoomFor set.id store.limits.sequences = true)
  /-- A picture parameter set is accepted if it is decoded and finds room. -/
  acceptsPicture : operation.pictureUnit?.isSome = true →
    ((operation.perform store).1.isOk = true ↔ ∃ set, operation.picture? = some set ∧
      store.pictures.hasRoomFor set.id store.limits.pictures = true)

theorem StoreOperation.lawful (operation : StoreOperation) (store : ParameterStore) :
    operation.Lawful store := by
  have ends := operation.ends_perform store
  have atOnce := operation.perform_apply store
  constructor
  · exact atOnce
  all_goals
    clear atOnce
    generalize operation.perform store = result at ends
  · intro error failed
    cases ends with
    | refused => rfl
    | answered => cases failed
    | tookVideo => cases failed
    | tookSequence => cases failed
    | tookPicture => cases failed
    | cleared => cases failed
  · intro noVideo notClear
    cases ends with
    | refused => rfl
    | answered => rfl
    | tookVideo _ set isOffered => cases (video?_eq_none noVideo).symm.trans isOffered
    | tookSequence => rfl
    | tookPicture => rfl
    | cleared isClear => exact absurd isClear notClear
  · intro noSequence notClear
    cases ends with
    | refused => exact ⟨rfl, rfl⟩
    | answered => exact ⟨rfl, rfl⟩
    | tookVideo => exact ⟨rfl, rfl⟩
    | tookSequence _ set isOffered =>
        cases (sequence?_eq_none noSequence).symm.trans isOffered
    | tookPicture => exact ⟨rfl, rfl⟩
    | cleared isClear => exact absurd isClear notClear
  · intro noPicture notClear
    cases ends with
    | refused => exact ⟨rfl, rfl⟩
    | answered => exact ⟨rfl, rfl⟩
    | tookVideo => exact ⟨rfl, rfl⟩
    | tookSequence => exact ⟨rfl, rfl⟩
    | tookPicture _ set isOffered =>
        cases (picture?_eq_none noPicture).symm.trans isOffered
    | cleared isClear => exact absurd isClear notClear
  · intro unit set offers
    rw [sequence?_eq offers]
    exact Interruption.keepDecoded_toOption
  · intro unit set offers
    rw [picture?_eq offers]
    exact Interruption.keepDecoded_toOption
  · intro offers
    cases ends with
    | refused error noVideo => exact InPlace.refused_iff noVideo error
    | answered _ noVideo => simp [noVideo] at offers
    | tookVideo _ set isOffered _ _ _ hasRoom => exact iff_of_true rfl ⟨set, isOffered, hasRoom⟩
    | tookSequence _ _ _ noVideo => simp [noVideo] at offers
    | tookPicture _ _ _ noVideo => simp [noVideo] at offers
    | cleared isClear => simp [isClear, videoUnit?] at offers
  · intro offers
    cases ends with
    | refused error _ noSequence => exact InPlace.refused_iff noSequence error
    | answered _ _ noSequence => simp [noSequence] at offers
    | tookVideo _ _ _ noSequence => simp [noSequence] at offers
    | tookSequence _ set isOffered _ _ _ hasRoom => exact iff_of_true rfl ⟨set, isOffered, hasRoom⟩
    | tookPicture _ _ _ _ noSequence => simp [noSequence] at offers
    | cleared isClear => simp [isClear, sequenceUnit?] at offers
  · intro offers
    cases ends with
    | refused error _ _ noPicture => exact InPlace.refused_iff noPicture error
    | answered _ _ _ noPicture => simp [noPicture] at offers
    | tookVideo _ _ _ _ noPicture => simp [noPicture] at offers
    | tookSequence _ _ _ _ noPicture => simp [noPicture] at offers
    | tookPicture _ set isOffered _ _ _ hasRoom => exact iff_of_true rfl ⟨set, isOffered, hasRoom⟩
    | cleared isClear => simp [isClear, pictureUnit?] at offers

/-! ## Runs -/

namespace ParameterStore

/-- An operation on a store, and its answer. -/
abbrev Event := StoreEvent StoreOperation ParameterStore StoreAnswer

/-- What an operation does to the video parameter sets. -/
def Event.videoChange (event : Event) : TableChange VideoParameterSet :=
  .caused (decide (event.operation = .clear)) event.operation.video? event.answer

/-- What an operation does to the sequence parameter sets. -/
def Event.sequenceChange (event : Event) : TableChange SequenceParameterSet :=
  .caused (decide (event.operation = .clear)) event.operation.sequence? event.answer

/-- What an operation does to the picture parameter sets. -/
def Event.pictureChange (event : Event) : TableChange PictureParameterSet :=
  .caused (decide (event.operation = .clear)) event.operation.picture? event.answer

/-- The video parameter sets that were taken since the store was cleared last, from the latest one
on. -/
def videosTaken (events : List Event) : List VideoParameterSet :=
  TableChange.taken (events.map Event.videoChange)

/-- The sequence parameter sets that were taken since the store was cleared last, from the latest
one on. -/
def sequencesTaken (events : List Event) : List SequenceParameterSet :=
  TableChange.taken (events.map Event.sequenceChange)

/-- The picture parameter sets that were taken since the store was cleared last, from the latest one
on. -/
def picturesTaken (events : List Event) : List PictureParameterSet :=
  TableChange.taken (events.map Event.pictureChange)

/-- A store is what its history makes of it. -/
structure Follows (store : ParameterStore) (limits : StoreLimits) (events : List Event) : Prop where
  limits_eq : store.limits = limits
  videos : store.videos.Follows (·.id) limits.videos (videosTaken events)
  sequences : store.sequences.Follows (·.id) limits.sequences (sequencesTaken events)
  pictures : store.pictures.Follows (·.id) limits.pictures (picturesTaken events)
  activeSequence :
    store.sequences.NamesLatest store.activeSequenceId (·.id) (sequencesTaken events)
  activePicture : store.pictures.NamesLatest store.activePictureId (·.id) (picturesTaken events)

/-- The events of a run from the empty store on, and the store behind it. -/
def run (limits : StoreLimits) (operations : List StoreOperation) : List Event × ParameterStore :=
  InPlace.performAll StoreOperation.perform operations { limits }

/-- An event leads to a store if the changes of its tables make that store of the one before. -/
structure Event.LeadsTo (event : Event) (store : ParameterStore) : Prop where
  limits_eq : store.limits = event.before.limits
  videos : event.videoChange.LeadsTo (·.id) event.before.limits.videos
    event.before.videos store.videos
  sequences : event.sequenceChange.LeadsTo (·.id) event.before.limits.sequences
    event.before.sequences store.sequences
  pictures : event.pictureChange.LeadsTo (·.id) event.before.limits.pictures
    event.before.pictures store.pictures
  activeSequenceId_eq :
    store.activeSequenceId = event.sequenceChange.noteTo (·.id) event.before.activeSequenceId
  activePictureId_eq :
    store.activePictureId = event.pictureChange.noteTo (·.id) event.before.activePictureId

variable {limits : StoreLimits} {events : List Event} {event : Event} {store : ParameterStore}
  {operation : StoreOperation} {answer : Except Error StoreAnswer}

theorem Event.videoChange_eq_keep (notClear : operation ≠ .clear)
    (noVideo : operation.videoUnit? = none) :
    Event.videoChange ⟨operation, store, answer⟩ = .keep := by
  rw [Event.videoChange, decide_eq_false notClear, StoreOperation.video?_eq_none noVideo,
    TableChange.caused_none]

theorem Event.sequenceChange_eq_keep (notClear : operation ≠ .clear)
    (noSequence : operation.sequenceUnit? = none) :
    Event.sequenceChange ⟨operation, store, answer⟩ = .keep := by
  rw [Event.sequenceChange, decide_eq_false notClear, StoreOperation.sequence?_eq_none noSequence,
    TableChange.caused_none]

theorem Event.pictureChange_eq_keep (notClear : operation ≠ .clear)
    (noPicture : operation.pictureUnit? = none) :
    Event.pictureChange ⟨operation, store, answer⟩ = .keep := by
  rw [Event.pictureChange, decide_eq_false notClear, StoreOperation.picture?_eq_none noPicture,
    TableChange.caused_none]

/-- An event that keeps all tables leads back to the same store. -/
theorem Event.leadsTo_before (keepsVideos : event.videoChange = .keep)
    (keepsSequences : event.sequenceChange = .keep) (keepsPictures : event.pictureChange = .keep) :
    event.LeadsTo event.before where
  limits_eq := rfl
  videos := .kept keepsVideos
  sequences := .kept keepsSequences
  pictures := .kept keepsPictures
  activeSequenceId_eq := by rw [keepsSequences]; rfl
  activePictureId_eq := by rw [keepsPictures]; rfl

/-- Each operation leads to the store that it gives. -/
theorem leadsTo_perform (operation : StoreOperation) (store : ParameterStore) :
    Event.LeadsTo ⟨operation, store, (operation.perform store).1⟩ (operation.perform store).2 := by
  have ends := operation.ends_perform store
  generalize operation.perform store = result at ends
  cases ends with
  | refused error _ _ _ notClear =>
      have notClears := decide_eq_false notClear
      apply Event.leadsTo_before
      · rw [Event.videoChange, notClears, TableChange.caused_error]
      · rw [Event.sequenceChange, notClears, TableChange.caused_error]
      · rw [Event.pictureChange, notClears, TableChange.caused_error]
  | answered answer noVideo noSequence noPicture notClear =>
      exact Event.leadsTo_before (Event.videoChange_eq_keep notClear noVideo)
        (Event.sequenceChange_eq_keep notClear noSequence)
        (Event.pictureChange_eq_keep notClear noPicture)
  | tookVideo answer set isOffered noSequence noPicture notClear hasRoom =>
      have takes : Event.videoChange ⟨operation, store, .ok answer⟩ = .take set := by
        rw [Event.videoChange, decide_eq_false notClear, isOffered, TableChange.caused_some]
      have keepsSequences : Event.sequenceChange ⟨operation, store, .ok answer⟩ = .keep :=
        Event.sequenceChange_eq_keep notClear noSequence
      have keepsPictures : Event.pictureChange ⟨operation, store, .ok answer⟩ = .keep :=
        Event.pictureChange_eq_keep notClear noPicture
      refine ⟨rfl, .took takes hasRoom, .kept keepsSequences, .kept keepsPictures, ?_, ?_⟩
      · rw [keepsSequences]; rfl
      · rw [keepsPictures]; rfl
  | tookSequence answer set isOffered noVideo noPicture notClear hasRoom =>
      have keepsVideos : Event.videoChange ⟨operation, store, .ok answer⟩ = .keep :=
        Event.videoChange_eq_keep notClear noVideo
      have takes : Event.sequenceChange ⟨operation, store, .ok answer⟩ = .take set := by
        rw [Event.sequenceChange, decide_eq_false notClear, isOffered, TableChange.caused_some]
      have keepsPictures : Event.pictureChange ⟨operation, store, .ok answer⟩ = .keep :=
        Event.pictureChange_eq_keep notClear noPicture
      refine ⟨rfl, .kept keepsVideos, .took takes hasRoom, .kept keepsPictures, ?_, ?_⟩
      · rw [takes]; rfl
      · rw [keepsPictures]; rfl
  | tookPicture answer set isOffered noVideo noSequence notClear hasRoom =>
      have keepsVideos : Event.videoChange ⟨operation, store, .ok answer⟩ = .keep :=
        Event.videoChange_eq_keep notClear noVideo
      have keepsSequences : Event.sequenceChange ⟨operation, store, .ok answer⟩ = .keep :=
        Event.sequenceChange_eq_keep notClear noSequence
      have takes : Event.pictureChange ⟨operation, store, .ok answer⟩ = .take set := by
        rw [Event.pictureChange, decide_eq_false notClear, isOffered, TableChange.caused_some]
      refine ⟨rfl, .kept keepsVideos, .kept keepsSequences, .took takes hasRoom, ?_, ?_⟩
      · rw [keepsSequences]; rfl
      · rw [takes]; rfl
  | cleared isClear =>
      have clears := decide_eq_true isClear
      have clearsVideos : Event.videoChange ⟨operation, store, .ok .done⟩ = .clear := by
        rw [Event.videoChange, clears, TableChange.caused_clears]
      have clearsSequences : Event.sequenceChange ⟨operation, store, .ok .done⟩ = .clear := by
        rw [Event.sequenceChange, clears, TableChange.caused_clears]
      have clearsPictures : Event.pictureChange ⟨operation, store, .ok .done⟩ = .clear := by
        rw [Event.pictureChange, clears, TableChange.caused_clears]
      refine ⟨rfl, .cleared clearsVideos, .cleared clearsSequences, .cleared clearsPictures, ?_, ?_⟩
      · rw [clearsSequences]; rfl
      · rw [clearsPictures]; rfl

theorem follows_empty (limits : StoreLimits) : Follows { limits } limits [] where
  limits_eq := rfl
  videos := .empty _ _
  sequences := .empty _ _
  pictures := .empty _ _
  activeSequence := (IdTable.Follows.empty _ 0).namesLatest rfl
  activePicture := (IdTable.Follows.empty _ 0).namesLatest rfl

/-- A store goes on following its history through every event. -/
theorem Follows.step (follows : Follows event.before limits events) (leads : event.LeadsTo store) :
    Follows store limits (event :: events) := by
  rcases follows with ⟨rfl, videos, sequences, pictures, activeSequence, activePicture⟩
  have sequencesFollow : store.sequences.Follows (·.id) event.before.limits.sequences
      (sequencesTaken (event :: events)) := sequences.step leads.sequences
  have picturesFollow : store.pictures.Follows (·.id) event.before.limits.pictures
      (picturesTaken (event :: events)) := pictures.step leads.pictures
  refine ⟨leads.limits_eq, videos.step leads.videos, sequencesFollow, picturesFollow,
    sequencesFollow.namesLatest ?_, picturesFollow.namesLatest ?_⟩
  · rw [leads.activeSequenceId_eq]
    exact TableChange.noteTo_eq activeSequence.active_eq event.sequenceChange
  · rw [leads.activePictureId_eq]
    exact TableChange.noteTo_eq activePicture.active_eq event.pictureChange

/-- Behind every run of operations the store is what its history makes of it. -/
theorem follows_run (limits : StoreLimits) (operations : List StoreOperation) :
    Follows (run limits operations).2 limits (run limits operations).1 :=
  InPlace.performAll_invariant (fun events store => Follows store limits events)
    (follows_empty limits)
    (fun _ store operation follows => Follows.step follows (leadsTo_perform operation store))
    operations

end ParameterStore

end CodedVideo.Hevc
