import CodedVideo.Avc.ParameterStore
import CodedVideo.Proofs.IdTable
import CodedVideo.Proofs.InPlace

/-!
# Histories of AVC parameter stores

An operation of a store is a sequence of steps that change it in place. However many operations are
performed on a store, and whatever units they are given, its tables hold what was taken last under
each identifier since the store was cleared last. An operation that fails has changed nothing.

Main statements: `ParameterStore.follows_run` and `StoreOperation.lawful`.
-/

namespace CodedVideo.Avc

/-! ## Operations in place -/

namespace ParameterStore

/-- Takes a sequence parameter set step by step. -/
def addSequenceInPlace (unit : List UInt8) : InPlace ParameterStore Nat := do
  let set ← MonadExcept.ofExcept (SequenceParameterSet.ofUnit unit)
  InPlace.putIfRoom (fun store => store.sequences.hasRoomFor set.id store.limits.sequences)
    (.resourceExhausted "SPS count limit exceeded")
    (fun store => { store with sequences := store.sequences.insert set.id set })
    (fun store => { store with activeSequenceId := some set.id }) set.id

/-- Takes a picture parameter set step by step. -/
def addPictureInPlace (unit : List UInt8) : InPlace ParameterStore Nat := do
  let store ← get
  let set ← MonadExcept.ofExcept (PictureParameterSet.ofUnit store.sequences unit)
  InPlace.putIfRoom (fun store => store.pictures.hasRoomFor set.id store.limits.pictures)
    (.resourceExhausted "PPS count limit exceeded")
    (fun store => { store with pictures := store.pictures.insert set.id set })
    (fun store => { store with activePictureId := some set.id }) set.id

/-- Takes a unit step by step if it is a parameter set. -/
def addUnitInPlace (unit : List UInt8) : InPlace ParameterStore NalUnitType :=
  match NalUnitType.ofUnit? unit with
  | none => throw (.malformed "NAL unit header" "empty NAL unit")
  | some .sps => (fun _ => .sps) <$> addSequenceInPlace unit
  | some .pps => (fun _ => .pps) <$> addPictureInPlace unit
  | some unitType => return unitType

theorem addSequenceInPlace_apply (unit : List UInt8) (store : ParameterStore) :
    addSequenceInPlace unit store = InPlace.atOnce (store.addSequence unit) store := by
  rw [addSequenceInPlace, InPlace.ofExcept_bind_putIfRoom_apply]
  rfl

theorem addPictureInPlace_apply (unit : List UInt8) (store : ParameterStore) :
    addPictureInPlace unit store = InPlace.atOnce (store.addPicture unit) store := by
  rw [addPictureInPlace, InPlace.get_bind_apply, InPlace.ofExcept_bind_putIfRoom_apply]
  rfl

theorem addUnitInPlace_apply (unit : List UInt8) (store : ParameterStore) :
    addUnitInPlace unit store = InPlace.atOnce (store.addUnit unit) store := by
  rw [addUnitInPlace, addUnit]
  generalize NalUnitType.ofUnit? unit = unitType?
  split
  · rfl
  · rw [InPlace.map_apply, addSequenceInPlace_apply]
    cases store.addSequence unit with
    | error error => rfl
    | ok result => rfl
  · rw [InPlace.map_apply, addPictureInPlace_apply]
    cases store.addPicture unit with
    | error error => rfl
    | ok result => rfl
  · simp only [InPlace.atOnce]
    rfl

end ParameterStore

/-! ## Operations -/

/-- An operation of a store. -/
inductive StoreOperation where
  /-- Take a sequence parameter set. -/
  | addSequence (unit : List UInt8)
  /-- Take a picture parameter set. -/
  | addPicture (unit : List UInt8)
  /-- Take a unit if it is a parameter set. -/
  | addUnit (unit : List UInt8)
  /-- Decode a slice header. -/
  | readSlice (unit : List UInt8)
  /-- Forget every parameter set. -/
  | clear
deriving DecidableEq, Repr

/-- What an operation answers with. -/
inductive StoreAnswer where
  | id (id : Nat)
  | unitType (unitType : NalUnitType)
  | slice (header : SliceHeader)
  | done

namespace StoreOperation

/-- Performs an operation on a store. -/
def perform : StoreOperation → InPlace ParameterStore StoreAnswer
  | addSequence unit => .id <$> ParameterStore.addSequenceInPlace unit
  | addPicture unit => .id <$> ParameterStore.addPictureInPlace unit
  | addUnit unit => .unitType <$> ParameterStore.addUnitInPlace unit
  | readSlice unit => do
      let store ← get
      .slice <$> MonadExcept.ofExcept (store.sliceHeader unit)
  | clear => do
      modify ParameterStore.clear
      return .done

/-- What an operation does at once: it answers and gives another store, or it fails. -/
def result : StoreOperation → ParameterStore → Except Error (StoreAnswer × ParameterStore)
  | addSequence unit, store => (store.addSequence unit).map (Prod.map .id id)
  | addPicture unit, store => (store.addPicture unit).map (Prod.map .id id)
  | addUnit unit, store => (store.addUnit unit).map (Prod.map .unitType id)
  | readSlice unit, store => (store.sliceHeader unit).map fun header => (.slice header, store)
  | clear, store => .ok (.done, store.clear)

/-- The unit that an operation offers as a sequence parameter set. -/
def sequenceUnit? : StoreOperation → Option (List UInt8)
  | addSequence unit => some unit
  | addUnit unit => if NalUnitType.ofUnit? unit = some .sps then some unit else none
  | _ => none

/-- The unit that an operation offers as a picture parameter set. -/
def pictureUnit? : StoreOperation → Option (List UInt8)
  | addPicture unit => some unit
  | addUnit unit => if NalUnitType.ofUnit? unit = some .pps then some unit else none
  | _ => none

/-- The sequence parameter set that is decoded from the unit an operation offers. -/
def sequence? (operation : StoreOperation) : Option SequenceParameterSet :=
  operation.sequenceUnit?.bind fun unit => (SequenceParameterSet.ofUnit unit).toOption

/-- The picture parameter set that is decoded from the unit an operation offers to a store. -/
def picture? (operation : StoreOperation) (store : ParameterStore) : Option PictureParameterSet :=
  operation.pictureUnit?.bind fun unit =>
    (PictureParameterSet.ofUnit store.sequences unit).toOption

/-- The ways in which an operation on a store can end, each with the reason. -/
inductive Ends (operation : StoreOperation) (store : ParameterStore) :
    Except Error StoreAnswer × ParameterStore → Prop where
  /-- Nothing is taken: what is offered cannot be decoded or finds no room. -/
  | refused (error : Error)
      (noSequence : ∀ set, operation.sequence? = some set →
        store.sequences.hasRoomFor set.id store.limits.sequences = false)
      (noPicture : ∀ set, operation.picture? store = some set →
        store.pictures.hasRoomFor set.id store.limits.pictures = false)
      (notClear : operation ≠ clear) : Ends operation store (.error error, store)
  /-- Nothing is offered. -/
  | answered (answer : StoreAnswer) (noSequence : operation.sequenceUnit? = none)
      (noPicture : operation.pictureUnit? = none) (notClear : operation ≠ clear) :
      Ends operation store (.ok answer, store)
  /-- A sequence parameter set is taken. -/
  | tookSequence (answer : StoreAnswer) (set : SequenceParameterSet)
      (isOffered : operation.sequence? = some set) (noPicture : operation.pictureUnit? = none)
      (notClear : operation ≠ clear)
      (hasRoom : store.sequences.hasRoomFor set.id store.limits.sequences = true) :
      Ends operation store (.ok answer, { store with
        sequences := store.sequences.insert set.id set
        activeSequenceId := some set.id })
  /-- A picture parameter set is taken. -/
  | tookPicture (answer : StoreAnswer) (set : PictureParameterSet)
      (isOffered : operation.picture? store = some set)
      (noSequence : operation.sequenceUnit? = none) (notClear : operation ≠ clear)
      (hasRoom : store.pictures.hasRoomFor set.id store.limits.pictures = true) :
      Ends operation store (.ok answer, { store with
        pictures := store.pictures.insert set.id set
        activePictureId := some set.id })
  /-- Every set is forgotten. -/
  | cleared (isClear : operation = clear) : Ends operation store (.ok .done, store.clear)

variable {operation : StoreOperation} {store : ParameterStore} {unit : List UInt8}

/-- The steps of an operation come to what is done at once. -/
theorem perform_apply (operation : StoreOperation) (store : ParameterStore) :
    operation.perform store = InPlace.atOnce (operation.result store) store := by
  cases operation with
  | addSequence unit =>
      rw [perform, result, InPlace.map_apply, ParameterStore.addSequenceInPlace_apply,
        InPlace.map_atOnce]
  | addPicture unit =>
      rw [perform, result, InPlace.map_apply, ParameterStore.addPictureInPlace_apply,
        InPlace.map_atOnce]
  | addUnit unit =>
      rw [perform, result, InPlace.map_apply, ParameterStore.addUnitInPlace_apply,
        InPlace.map_atOnce]
  | readSlice unit =>
      rw [perform, result, InPlace.get_bind_apply, InPlace.map_apply]
      generalize store.sliceHeader unit = result
      cases result with
      | error error => rfl
      | ok header => rfl
  | clear => rfl

/-- What is offered is decoded to the sequence parameter set of its unit. -/
theorem sequence?_eq (offers : operation.sequenceUnit? = some unit) :
    operation.sequence? = (SequenceParameterSet.ofUnit unit).toOption := by
  rw [sequence?, offers]
  rfl

theorem picture?_eq (offers : operation.pictureUnit? = some unit) :
    operation.picture? store = (PictureParameterSet.ofUnit store.sequences unit).toOption := by
  rw [picture?, offers]
  rfl

theorem sequence?_eq_none (noSequence : operation.sequenceUnit? = none) :
    operation.sequence? = none := by
  rw [sequence?, noSequence]
  rfl

theorem picture?_eq_none (noPicture : operation.pictureUnit? = none) :
    operation.picture? store = none := by
  rw [picture?, noPicture]
  rfl

/-- No sequence parameter set finds room where none is offered. -/
theorem refuses_sequence (noSequence : operation.sequenceUnit? = none) :
    ∀ set, operation.sequence? = some set →
      store.sequences.hasRoomFor set.id store.limits.sequences = false :=
  InPlace.refuses_of_eq_none (sequence?_eq_none noSequence) _

theorem refuses_picture (noPicture : operation.pictureUnit? = none) :
    ∀ set, operation.picture? store = some set →
      store.pictures.hasRoomFor set.id store.limits.pictures = false :=
  InPlace.refuses_of_eq_none (picture?_eq_none noPicture) _

/-- Taking a sequence parameter set ends in one of the ways. -/
theorem ends_addSequence (offers : operation.sequenceUnit? = some unit)
    (noPicture : operation.pictureUnit? = none) (notClear : operation ≠ clear)
    (form : Nat → StoreAnswer) :
    Ends operation store
      (InPlace.atOnce ((store.addSequence unit).map (Prod.map form id)) store) := by
  refine InPlace.takeIfRoom_cases form (fun set isDecoded hasRoom => ?_) fun error refuses => ?_
  · have isOffered := (sequence?_eq offers).trans isDecoded
    exact Ends.tookSequence _ set isOffered noPicture notClear hasRoom
  · rw [← sequence?_eq offers] at refuses
    exact Ends.refused error refuses (refuses_picture noPicture) notClear

/-- Taking a picture parameter set ends in one of the ways. -/
theorem ends_addPicture (offers : operation.pictureUnit? = some unit)
    (noSequence : operation.sequenceUnit? = none) (notClear : operation ≠ clear)
    (form : Nat → StoreAnswer) :
    Ends operation store
      (InPlace.atOnce ((store.addPicture unit).map (Prod.map form id)) store) := by
  refine InPlace.takeIfRoom_cases form (fun set isDecoded hasRoom => ?_) fun error refuses => ?_
  · have isOffered : operation.picture? store = some set := (picture?_eq offers).trans isDecoded
    exact Ends.tookPicture _ set isOffered noSequence notClear hasRoom
  · rw [← picture?_eq offers] at refuses
    exact Ends.refused error (refuses_sequence noSequence) refuses notClear

/-- An operation that offers nothing and fails is refused. -/
theorem ends_refused (noSequence : operation.sequenceUnit? = none)
    (noPicture : operation.pictureUnit? = none) (notClear : operation ≠ clear) (error : Error) :
    Ends operation store (.error error, store) :=
  Ends.refused error (refuses_sequence noSequence) (refuses_picture noPicture) notClear

/-- Each operation ends in one of the ways. -/
theorem ends_perform (operation : StoreOperation) (store : ParameterStore) :
    Ends operation store (operation.perform store) := by
  rw [perform_apply]
  cases operation with
  | addSequence unit => exact ends_addSequence rfl rfl (by simp) _
  | addPicture unit => exact ends_addPicture rfl rfl (by simp) _
  | addUnit unit =>
      rw [result, ParameterStore.addUnit]
      split
      · next isEmpty =>
        exact ends_refused (by simp [sequenceUnit?, isEmpty]) (by simp [pictureUnit?, isEmpty])
          (by simp) _
      · next isSequence =>
        have offers : (addUnit unit).sequenceUnit? = some unit := by
          simp [sequenceUnit?, isSequence]
        rw [InPlace.map_answer_with]
        exact ends_addSequence offers (by simp [pictureUnit?, isSequence]) (by simp)
          fun _ => .unitType .sps
      · next isPicture =>
        have offers : (addUnit unit).pictureUnit? = some unit := by
          simp [pictureUnit?, isPicture]
        rw [InPlace.map_answer_with]
        exact ends_addPicture offers (by simp [sequenceUnit?, isPicture]) (by simp)
          fun _ => .unitType .pps
      · next unitType notSequence notPicture type_eq =>
        refine Ends.answered _ ?_ ?_ (by simp)
        · simpa [sequenceUnit?, type_eq] using notSequence
        · simpa [pictureUnit?, type_eq] using notPicture
  | readSlice unit =>
      rw [result]
      cases store.sliceHeader unit with
      | error error => exact ends_refused rfl rfl (by simp) error
      | ok header => exact Ends.answered _ rfl rfl (by simp)
  | clear => exact Ends.cleared rfl

end StoreOperation

/-! ## Laws of single operations -/

/-- What every operation does with every store. -/
structure StoreOperation.Lawful (operation : StoreOperation) (store : ParameterStore) : Prop where
  /-- The steps of the operation come to what it does at once. -/
  atOnce : operation.perform store = InPlace.atOnce (operation.result store) store
  /-- An operation that fails leaves the store as it was. -/
  unchanged : ∀ error, (operation.perform store).1 = .error error →
    (operation.perform store).2 = store
  /-- Only an operation that offers a sequence parameter set changes the table of those. -/
  sequences_eq : operation.sequenceUnit? = none → operation ≠ .clear →
    (operation.perform store).2.sequences = store.sequences ∧
      (operation.perform store).2.activeSequenceId = store.activeSequenceId
  /-- Only an operation that offers a picture parameter set changes the table of those. -/
  pictures_eq : operation.pictureUnit? = none → operation ≠ .clear →
    (operation.perform store).2.pictures = store.pictures ∧
      (operation.perform store).2.activePictureId = store.activePictureId
  /-- A sequence parameter set is accepted if it is decoded and finds room. -/
  acceptsSequence : operation.sequenceUnit?.isSome = true →
    ((operation.perform store).1.isOk = true ↔ ∃ set, operation.sequence? = some set ∧
      store.sequences.hasRoomFor set.id store.limits.sequences = true)
  /-- A picture parameter set is accepted if it is decoded and finds room. -/
  acceptsPicture : operation.pictureUnit?.isSome = true →
    ((operation.perform store).1.isOk = true ↔ ∃ set, operation.picture? store = some set ∧
      store.pictures.hasRoomFor set.id store.limits.pictures = true)

theorem StoreOperation.lawful (operation : StoreOperation) (store : ParameterStore) :
    operation.Lawful store := by
  have ends := operation.ends_perform store
  have atOnce := operation.perform_apply store
  constructor
  · exact atOnce
  all_goals
    clear atOnce
    generalize operation.perform store = result at ends
  · intro error failed
    cases ends with
    | refused => rfl
    | answered => cases failed
    | tookSequence => cases failed
    | tookPicture => cases failed
    | cleared => cases failed
  · intro noSequence notClear
    cases ends with
    | refused => exact ⟨rfl, rfl⟩
    | answered => exact ⟨rfl, rfl⟩
    | tookSequence _ set isOffered =>
        cases (sequence?_eq_none noSequence).symm.trans isOffered
    | tookPicture => exact ⟨rfl, rfl⟩
    | cleared isClear => exact absurd isClear notClear
  · intro noPicture notClear
    cases ends with
    | refused => exact ⟨rfl, rfl⟩
    | answered => exact ⟨rfl, rfl⟩
    | tookSequence => exact ⟨rfl, rfl⟩
    | tookPicture _ set isOffered =>
        cases (picture?_eq_none noPicture).symm.trans isOffered
    | cleared isClear => exact absurd isClear notClear
  · intro offers
    cases ends with
    | refused error noSequence => exact InPlace.refused_iff noSequence error
    | answered _ noSequence => simp [noSequence] at offers
    | tookSequence _ set isOffered _ _ hasRoom => exact iff_of_true rfl ⟨set, isOffered, hasRoom⟩
    | tookPicture _ _ _ noSequence => simp [noSequence] at offers
    | cleared isClear => simp [isClear, sequenceUnit?] at offers
  · intro offers
    cases ends with
    | refused error _ noPicture => exact InPlace.refused_iff noPicture error
    | answered _ _ noPicture => simp [noPicture] at offers
    | tookSequence _ _ _ noPicture => simp [noPicture] at offers
    | tookPicture _ set isOffered _ _ hasRoom => exact iff_of_true rfl ⟨set, isOffered, hasRoom⟩
    | cleared isClear => simp [isClear, pictureUnit?] at offers

/-! ## Runs -/

namespace ParameterStore

/-- An operation on a store, and its answer. -/
abbrev Event := StoreEvent StoreOperation ParameterStore StoreAnswer

/-- What an operation does to the sequence parameter sets. -/
def Event.sequenceChange (event : Event) : TableChange SequenceParameterSet :=
  .caused (decide (event.operation = .clear)) event.operation.sequence? event.answer

/-- What an operation does to the picture parameter sets. -/
def Event.pictureChange (event : Event) : TableChange PictureParameterSet :=
  .caused (decide (event.operation = .clear)) (event.operation.picture? event.before) event.answer

/-- The sequence parameter sets that were taken since the store was cleared last, from the latest
one on. -/
def sequencesTaken (events : List Event) : List SequenceParameterSet :=
  TableChange.taken (events.map Event.sequenceChange)

/-- The picture parameter sets that were taken since the store was cleared last, from the latest one
on. -/
def picturesTaken (events : List Event) : List PictureParameterSet :=
  TableChange.taken (events.map Event.pictureChange)

/-- A store is what its history makes of it. -/
structure Follows (store : ParameterStore) (limits : StoreLimits) (events : List Event) : Prop where
  limits_eq : store.limits = limits
  sequences : store.sequences.Follows (·.id) limits.sequences (sequencesTaken events)
  pictures : store.pictures.Follows (·.id) limits.pictures (picturesTaken events)
  activeSequence :
    store.sequences.NamesLatest store.activeSequenceId (·.id) (sequencesTaken events)
  activePicture : store.pictures.NamesLatest store.activePictureId (·.id) (picturesTaken events)

/-- The events of a run from the empty store on, and the store behind it. -/
def run (limits : StoreLimits) (operations : List StoreOperation) : List Event × ParameterStore :=
  InPlace.performAll StoreOperation.perform operations { limits }

/-- An event leads to a store if the changes of its tables make that store of the one before. -/
structure Event.LeadsTo (event : Event) (store : ParameterStore) : Prop where
  limits_eq : store.limits = event.before.limits
  sequences : event.sequenceChange.LeadsTo (·.id) event.before.limits.sequences
    event.before.sequences store.sequences
  pictures : event.pictureChange.LeadsTo (·.id) event.before.limits.pictures
    event.before.pictures store.pictures
  activeSequenceId_eq :
    store.activeSequenceId = event.sequenceChange.noteTo (·.id) event.before.activeSequenceId
  activePictureId_eq :
    store.activePictureId = event.pictureChange.noteTo (·.id) event.before.activePictureId

variable {limits : StoreLimits} {events : List Event} {event : Event} {store : ParameterStore}
  {operation : StoreOperation} {answer : Except Error StoreAnswer}

theorem Event.sequenceChange_eq_keep (notClear : operation ≠ .clear)
    (noSequence : operation.sequenceUnit? = none) :
    Event.sequenceChange ⟨operation, store, answer⟩ = .keep := by
  rw [Event.sequenceChange, decide_eq_false notClear, StoreOperation.sequence?_eq_none noSequence,
    TableChange.caused_none]

theorem Event.pictureChange_eq_keep (notClear : operation ≠ .clear)
    (noPicture : operation.pictureUnit? = none) :
    Event.pictureChange ⟨operation, store, answer⟩ = .keep := by
  rw [Event.pictureChange, decide_eq_false notClear, StoreOperation.picture?_eq_none noPicture,
    TableChange.caused_none]

/-- An event that keeps both tables leads back to the same store. -/
theorem Event.leadsTo_before (keepsSequences : event.sequenceChange = .keep)
    (keepsPictures : event.pictureChange = .keep) : event.LeadsTo event.before where
  limits_eq := rfl
  sequences := .kept keepsSequences
  pictures := .kept keepsPictures
  activeSequenceId_eq := by rw [keepsSequences]; rfl
  activePictureId_eq := by rw [keepsPictures]; rfl

/-- Each operation leads to the store that it gives. -/
theorem leadsTo_perform (operation : StoreOperation) (store : ParameterStore) :
    Event.LeadsTo ⟨operation, store, (operation.perform store).1⟩ (operation.perform store).2 := by
  have ends := operation.ends_perform store
  generalize operation.perform store = result at ends
  cases ends with
  | refused error _ _ notClear =>
      have notClears := decide_eq_false notClear
      apply Event.leadsTo_before
      · rw [Event.sequenceChange, notClears, TableChange.caused_error]
      · rw [Event.pictureChange, notClears, TableChange.caused_error]
  | answered answer noSequence noPicture notClear =>
      exact Event.leadsTo_before (Event.sequenceChange_eq_keep notClear noSequence)
        (Event.pictureChange_eq_keep notClear noPicture)
  | tookSequence answer set isOffered noPicture notClear hasRoom =>
      have takes : Event.sequenceChange ⟨operation, store, .ok answer⟩ = .take set := by
        rw [Event.sequenceChange, decide_eq_false notClear, isOffered, TableChange.caused_some]
      have keeps : Event.pictureChange ⟨operation, store, .ok answer⟩ = .keep :=
        Event.pictureChange_eq_keep notClear noPicture
      refine ⟨rfl, .took takes hasRoom, .kept keeps, ?_, ?_⟩
      · rw [takes]; rfl
      · rw [keeps]; rfl
  | tookPicture answer set isOffered noSequence notClear hasRoom =>
      have keeps : Event.sequenceChange ⟨operation, store, .ok answer⟩ = .keep :=
        Event.sequenceChange_eq_keep notClear noSequence
      have takes : Event.pictureChange ⟨operation, store, .ok answer⟩ = .take set := by
        rw [Event.pictureChange, decide_eq_false notClear, isOffered, TableChange.caused_some]
      refine ⟨rfl, .kept keeps, .took takes hasRoom, ?_, ?_⟩
      · rw [keeps]; rfl
      · rw [takes]; rfl
  | cleared isClear =>
      have clears := decide_eq_true isClear
      have clearsSequences : Event.sequenceChange ⟨operation, store, .ok .done⟩ = .clear := by
        rw [Event.sequenceChange, clears, TableChange.caused_clears]
      have clearsPictures : Event.pictureChange ⟨operation, store, .ok .done⟩ = .clear := by
        rw [Event.pictureChange, clears, TableChange.caused_clears]
      refine ⟨rfl, .cleared clearsSequences, .cleared clearsPictures, ?_, ?_⟩
      · rw [clearsSequences]; rfl
      · rw [clearsPictures]; rfl

theorem follows_empty (limits : StoreLimits) : Follows { limits } limits [] where
  limits_eq := rfl
  sequences := .empty _ _
  pictures := .empty _ _
  activeSequence := (IdTable.Follows.empty _ 0).namesLatest rfl
  activePicture := (IdTable.Follows.empty _ 0).namesLatest rfl

/-- A store goes on following its history through every event. -/
theorem Follows.step (follows : Follows event.before limits events) (leads : event.LeadsTo store) :
    Follows store limits (event :: events) := by
  rcases follows with ⟨rfl, sequences, pictures, activeSequence, activePicture⟩
  have sequencesFollow : store.sequences.Follows (·.id) event.before.limits.sequences
      (sequencesTaken (event :: events)) := sequences.step leads.sequences
  have picturesFollow : store.pictures.Follows (·.id) event.before.limits.pictures
      (picturesTaken (event :: events)) := pictures.step leads.pictures
  refine ⟨leads.limits_eq, sequencesFollow, picturesFollow, sequencesFollow.namesLatest ?_,
    picturesFollow.namesLatest ?_⟩
  · rw [leads.activeSequenceId_eq]
    exact TableChange.noteTo_eq activeSequence.active_eq event.sequenceChange
  · rw [leads.activePictureId_eq]
    exact TableChange.noteTo_eq activePicture.active_eq event.pictureChange

/-- Behind every run of operations the store is what its history makes of it. -/
theorem follows_run (limits : StoreLimits) (operations : List StoreOperation) :
    Follows (run limits operations).2 limits (run limits operations).1 :=
  InPlace.performAll_invariant (fun events store => Follows store limits events)
    (follows_empty limits)
    (fun _ store operation follows => Follows.step follows (leadsTo_perform operation store))
    operations

end ParameterStore

end CodedVideo.Avc
