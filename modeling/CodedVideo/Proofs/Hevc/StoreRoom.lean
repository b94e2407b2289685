import CodedVideo.Proofs.DistinctIds
import CodedVideo.Proofs.Hevc.Limitless
import CodedVideo.Proofs.Hevc.Reports

/-!
# Room in HEVC parameter stores

A store with the limits that it has by default never runs out of room. What a parser enforces of an
identifier and what the limits allow fit together: there are no more identifiers of each kind of set
than sets of that kind find room, also where a set is kept that was decoded only up to its
extensions. Behind every run of operations each identifier in a table is one that a parser accepts,
so each set that is decoded is taken. What an operation answers then says nothing about limits.

Main statements: `StoreOperation.answer_eq`, `StoreOperation.takes_perform` and
`ParameterStore.inData_of_run`.
-/

namespace CodedVideo.Hevc

open Decoder (Yields)

/-! ## Identifiers -/

namespace VideoParameterSet

theorem yields_id : Yields fields (·.id < 16) := by
  refine Yields.bind (Yields.bits 4) fun id id_lt => ?_
  iterate 17 refine Yields.behind fun _ => ?_
  exact Yields.done id_lt

end VideoParameterSet

namespace SequenceParameterSet

theorem yields_id : Yields fields (·.id < 16) := by
  iterate 4 refine Yields.behind fun _ => ?_
  refine Yields.bind Yields.boundedUnsigned fun id id_le => ?_
  iterate 26 refine Yields.behind fun _ => ?_
  exact Yields.done (Nat.lt_succ_of_le id_le)

end SequenceParameterSet

theorem PictureParameterSet.yields_id : Yields fields (·.id < 64) := by
  refine Yields.bind Yields.boundedUnsigned fun id id_le => ?_
  iterate 32 refine Yields.behind fun _ => ?_
  exact Yields.done (Nat.lt_succ_of_le id_le)

namespace StoreOperation

variable {operation : StoreOperation}

/-- What an operation offers has an identifier that a parser accepts. -/
theorem id_lt_of_video? {set : VideoParameterSet} (isOffered : operation.video? = some set) :
    set.id < 16 := by
  obtain ⟨unit, isDecoded⟩ := InPlace.exists_unit_of_offered isOffered
  exact VideoParameterSet.of_ofUnit VideoParameterSet.yields_id isDecoded

theorem id_lt_of_sequence? {set : SequenceParameterSet}
    (isOffered : operation.sequence? = some set) : set.id < 16 := by
  obtain ⟨unit, isDecoded⟩ := exists_unit_of_sequence? isOffered
  exact SequenceParameterSet.of_keepDecoded SequenceParameterSet.yields_id isDecoded

theorem id_lt_of_picture? {set : PictureParameterSet} (isOffered : operation.picture? = some set) :
    set.id < 64 := by
  obtain ⟨unit, isDecoded⟩ := exists_unit_of_picture? isOffered
  exact PictureParameterSet.of_keepDecoded PictureParameterSet.yields_id isDecoded

end StoreOperation

/-! ## Stores in range -/

/-- The store has the limits of every store that is given none, and its tables have only identifiers
below them. -/
structure ParameterStore.InRange (store : ParameterStore) : Prop where
  limits_eq : store.limits = {}
  videos : ∀ id ∈ store.videos.ids, id < 16
  sequences : ∀ id ∈ store.sequences.ids, id < 16
  pictures : ∀ id ∈ store.pictures.ids, id < 64

namespace ParameterStore

theorem inRange_empty : InRange {} where
  limits_eq := rfl
  videos := List.forall_mem_nil _
  sequences := List.forall_mem_nil _
  pictures := List.forall_mem_nil _

variable {store : ParameterStore} (inRange : store.InRange) {operation : StoreOperation}

include inRange

/-- Each set that is decoded finds room in a store that is in range. -/
theorem InRange.hasRoom_video {set : VideoParameterSet} (isOffered : operation.video? = some set) :
    store.videos.hasRoomFor set.id store.limits.videos = true := by
  rw [inRange.limits_eq]
  exact IdTable.hasRoomFor_of_ids_lt inRange.videos (StoreOperation.id_lt_of_video? isOffered)

theorem InRange.hasRoom_sequence {set : SequenceParameterSet}
    (isOffered : operation.sequence? = some set) :
    store.sequences.hasRoomFor set.id store.limits.sequences = true := by
  rw [inRange.limits_eq]
  exact IdTable.hasRoomFor_of_ids_lt inRange.sequences
    (StoreOperation.id_lt_of_sequence? isOffered)

theorem InRange.hasRoom_picture {set : PictureParameterSet}
    (isOffered : operation.picture? = some set) :
    store.pictures.hasRoomFor set.id store.limits.pictures = true := by
  rw [inRange.limits_eq]
  exact IdTable.hasRoomFor_of_ids_lt inRange.pictures (StoreOperation.id_lt_of_picture? isOffered)

end ParameterStore

/-! ## Operations on stores in range -/

namespace StoreOperation

variable {operation : StoreOperation} {store : ParameterStore} {unit : List UInt8}

/-- What an operation answers where each set finds room. Only a slice asks for what is stored. -/
def answerIn (store : ParameterStore) : StoreOperation → Except Error StoreAnswer
  | addVideo unit => (VideoParameterSet.ofUnit unit).map fun set => .id set.id
  | addSequence unit =>
      (Interruption.keepDecoded (SequenceParameterSet.ofUnit unit)).map fun set => .id set.id
  | addPicture unit =>
      (Interruption.keepDecoded (PictureParameterSet.ofUnit unit)).map fun set => .id set.id
  | addUnit unit =>
      match NalUnitType.ofUnit? unit with
      | none => .error (.malformed "NAL unit header" "empty NAL unit")
      | some .vps => (VideoParameterSet.ofUnit unit).map fun _ => .unitType .vps
      | some .sps =>
          (Interruption.keepDecoded (SequenceParameterSet.ofUnit unit)).map fun _ => .unitType .sps
      | some .pps =>
          (Interruption.keepDecoded (PictureParameterSet.ofUnit unit)).map fun _ => .unitType .pps
      | some unitType => .ok (.unitType unitType)
  | readSlice unit => (store.sliceSegment unit).map .slice
  | clear => .ok .done

theorem answer_addVideo (inRange : store.InRange) (offers : operation.videoUnit? = some unit)
    (form : Nat → StoreAnswer) :
    (InPlace.atOnce ((store.addVideo unit).map (Prod.map form id)) store).1 =
      (VideoParameterSet.ofUnit unit).map fun set => form set.id :=
  InPlace.takeIfRoom_answer form fun _ isDecoded =>
    inRange.hasRoom_video ((video?_eq offers).trans isDecoded)

theorem answer_addSequence (inRange : store.InRange) (offers : operation.sequenceUnit? = some unit)
    (form : Nat → StoreAnswer) :
    (InPlace.atOnce ((store.addSequence unit).map (Prod.map form id)) store).1 =
      (Interruption.keepDecoded (SequenceParameterSet.ofUnit unit)).map fun set => form set.id :=
  InPlace.takeIfRoom_answer form fun _ isDecoded =>
    inRange.hasRoom_sequence ((sequence?_eq offers).trans isDecoded)

theorem answer_addPicture (inRange : store.InRange) (offers : operation.pictureUnit? = some unit)
    (form : Nat → StoreAnswer) :
    (InPlace.atOnce ((store.addPicture unit).map (Prod.map form id)) store).1 =
      (Interruption.keepDecoded (PictureParameterSet.ofUnit unit)).map fun set => form set.id :=
  InPlace.takeIfRoom_answer form fun _ isDecoded =>
    inRange.hasRoom_picture ((picture?_eq offers).trans isDecoded)

/-- In a store that is in range each operation answers as if there were no limits. -/
theorem answer_eq (inRange : store.InRange) (operation : StoreOperation) :
    (operation.perform store).1 = operation.answerIn store := by
  rw [perform_apply]
  cases operation with
  | addVideo unit =>
      have offers : (addVideo unit).videoUnit? = some unit := rfl
      exact answer_addVideo inRange offers .id
  | addSequence unit =>
      have offers : (addSequence unit).sequenceUnit? = some unit := rfl
      exact answer_addSequence inRange offers .id
  | addPicture unit =>
      have offers : (addPicture unit).pictureUnit? = some unit := rfl
      exact answer_addPicture inRange offers .id
  | addUnit unit =>
      rw [result, ParameterStore.addUnit, answerIn]
      generalize type_eq : NalUnitType.ofUnit? unit = unitType?
      split
      · rfl
      · have offers : (addUnit unit).videoUnit? = some unit := by simp [videoUnit?, type_eq]
        rw [InPlace.map_answer_with]
        exact answer_addVideo inRange offers fun _ => .unitType .vps
      · have offers : (addUnit unit).sequenceUnit? = some unit := by
          simp [sequenceUnit?, type_eq]
        rw [InPlace.map_answer_with]
        exact answer_addSequence inRange offers fun _ => .unitType .sps
      · have offers : (addUnit unit).pictureUnit? = some unit := by simp [pictureUnit?, type_eq]
        rw [InPlace.map_answer_with]
        exact answer_addPicture inRange offers fun _ => .unitType .pps
      · simp only [InPlace.atOnce]
        rfl
  | readSlice unit =>
      rw [result, answerIn]
      cases store.sliceSegment unit with
      | error error => rfl
      | ok segment => rfl
  | clear => rfl

/-- What an operation leaves of a table: nothing if it clears the store, and otherwise the table with
what it offers. -/
def leftOf {α : Type} (operation : StoreOperation) (idOf : α → Nat) (table : IdTable α)
    (offered : Option α) : IdTable α :=
  if operation = clear then .empty else table.taking idOf offered

/-- An operation leads from one store to another if it takes whatever it offers. The identifiers
that were taken last are left open. -/
structure Takes (operation : StoreOperation) (store next : ParameterStore) : Prop where
  limits_eq : next.limits = store.limits
  videos_eq : next.videos = operation.leftOf (·.id) store.videos operation.video?
  sequences_eq : next.sequences = operation.leftOf (·.id) store.sequences operation.sequence?
  pictures_eq : next.pictures = operation.leftOf (·.id) store.pictures operation.picture?

section

variable {α : Type} {idOf : α → Nat} {table : IdTable α} {offered : Option α}

theorem leftOf_eq_taking (notClear : operation ≠ clear) :
    operation.leftOf idOf table offered = table.taking idOf offered :=
  if_neg notClear

theorem leftOf_none (notClear : operation ≠ clear) (noOffer : offered = none) :
    table = operation.leftOf idOf table offered := by
  rw [leftOf_eq_taking notClear, noOffer, IdTable.taking_none]

theorem leftOf_some (notClear : operation ≠ clear) {value : α} (isOffered : offered = some value) :
    table.insert (idOf value) value = operation.leftOf idOf table offered := by
  rw [leftOf_eq_taking notClear, isOffered, IdTable.taking_some]

/-- What holds of the identifiers of a table and of the one that is offered holds of what an
operation leaves. -/
theorem forall_mem_ids_leftOf {condition : Nat → Prop} (holds : ∀ id ∈ table.ids, condition id)
    (isMet : ∀ value, offered = some value → condition (idOf value)) :
    ∀ id ∈ (operation.leftOf idOf table offered).ids, condition id := by
  rw [leftOf]
  split
  · exact List.forall_mem_nil _
  · exact IdTable.forall_mem_ids_taking holds isMet

end

/-- In a store that is in range each operation takes whatever it offers. -/
theorem takes_perform (inRange : store.InRange) (operation : StoreOperation) :
    operation.Takes store (operation.perform store).2 := by
  have ends := operation.ends_perform store
  generalize operation.perform store = result at ends
  cases ends with
  | refused error refusesVideo refusesSequence refusesPicture notClear =>
      exact ⟨rfl,
        leftOf_none notClear
          (InPlace.eq_none_of_refuses (fun _ => inRange.hasRoom_video) refusesVideo),
        leftOf_none notClear
          (InPlace.eq_none_of_refuses (fun _ => inRange.hasRoom_sequence) refusesSequence),
        leftOf_none notClear
          (InPlace.eq_none_of_refuses (fun _ => inRange.hasRoom_picture) refusesPicture)⟩
  | answered answer noVideo noSequence noPicture notClear =>
      exact ⟨rfl, leftOf_none notClear (video?_eq_none noVideo),
        leftOf_none notClear (sequence?_eq_none noSequence),
        leftOf_none notClear (picture?_eq_none noPicture)⟩
  | tookVideo answer set isOffered noSequence noPicture notClear =>
      exact ⟨rfl, leftOf_some notClear isOffered,
        leftOf_none notClear (sequence?_eq_none noSequence),
        leftOf_none notClear (picture?_eq_none noPicture)⟩
  | tookSequence answer set isOffered noVideo noPicture notClear =>
      exact ⟨rfl, leftOf_none notClear (video?_eq_none noVideo), leftOf_some notClear isOffered,
        leftOf_none notClear (picture?_eq_none noPicture)⟩
  | tookPicture answer set isOffered noVideo noSequence notClear =>
      exact ⟨rfl, leftOf_none notClear (video?_eq_none noVideo),
        leftOf_none notClear (sequence?_eq_none noSequence), leftOf_some notClear isOffered⟩
  | cleared isClear =>
      exact ⟨rfl, (if_pos isClear).symm, (if_pos isClear).symm, (if_pos isClear).symm⟩

/-- An operation keeps a store in range. -/
theorem inRange_perform (operation : StoreOperation) (inRange : store.InRange) :
    (operation.perform store).2.InRange := by
  have takes := takes_perform inRange operation
  refine ⟨takes.limits_eq.trans inRange.limits_eq, ?_, ?_, ?_⟩
  · rw [takes.videos_eq]
    exact forall_mem_ids_leftOf inRange.videos fun _ => id_lt_of_video?
  · rw [takes.sequences_eq]
    exact forall_mem_ids_leftOf inRange.sequences fun _ => id_lt_of_sequence?
  · rw [takes.pictures_eq]
    exact forall_mem_ids_leftOf inRange.pictures fun _ => id_lt_of_picture?

end StoreOperation

/-! ## Errors -/

section

variable {unit : List UInt8} {error : Error}

/-- No table matters for parameter sets. -/
theorem parsersReport_empty (unit : List UInt8) : ParsersReport .empty .empty unit :=
  parsersReport IdTable.forall_get?_empty IdTable.forall_get?_empty unit

theorem VideoParameterSet.inData_of_ofUnit (failed : ofUnit unit = .error error) : error.InData :=
  (parsersReport_empty unit).videoSet.inData failed

theorem SequenceParameterSet.inData_of_keepDecoded
    (failed : Interruption.keepDecoded (ofUnit unit) = .error error) : error.InData :=
  (parsersReport_empty unit).sequenceSet.inData failed

theorem PictureParameterSet.inData_of_keepDecoded
    (failed : Interruption.keepDecoded (ofUnit unit) = .error error) : error.InData :=
  (parsersReport_empty unit).pictureSet.inData failed

theorem SliceSegment.inData_of_ofUnit {sequences : IdTable SequenceParameterSet}
    {pictures : IdTable PictureParameterSet} (failed : ofUnit sequences pictures unit = .error error) :
    error.InData := by
  rw [ofUnit_eq, Error.map_eq_error_iff] at failed
  exact Decoder.Limitless.inData _ error failed

end

/-- Whatever is wrong with an operation on a store that is in range is wrong with its data. -/
theorem StoreOperation.inData_of_perform {operation : StoreOperation} {store : ParameterStore}
    (inRange : store.InRange) {error : Error} (failed : (operation.perform store).1 = .error error) :
    error.InData := by
  rw [answer_eq inRange] at failed
  cases operation with
  | addVideo unit =>
      exact VideoParameterSet.inData_of_ofUnit (Error.map_eq_error_iff.mp failed)
  | addSequence unit =>
      exact SequenceParameterSet.inData_of_keepDecoded (Error.map_eq_error_iff.mp failed)
  | addPicture unit =>
      exact PictureParameterSet.inData_of_keepDecoded (Error.map_eq_error_iff.mp failed)
  | addUnit unit =>
      rw [answerIn] at failed
      split at failed
      · cases failed
        infer_instance
      · exact VideoParameterSet.inData_of_ofUnit (Error.map_eq_error_iff.mp failed)
      · exact SequenceParameterSet.inData_of_keepDecoded (Error.map_eq_error_iff.mp failed)
      · exact PictureParameterSet.inData_of_keepDecoded (Error.map_eq_error_iff.mp failed)
      · cases failed
  | readSlice unit => exact SliceSegment.inData_of_ofUnit (Error.map_eq_error_iff.mp failed)
  | clear => cases failed

/-! ## Runs -/

namespace ParameterStore

/-- Behind every run of operations a store with the default limits is in range. -/
theorem inRange_run (operations : List StoreOperation) : (run {} operations).2.InRange :=
  InPlace.performAll_invariant (fun _ (store : ParameterStore) => store.InRange) inRange_empty
    (fun _ _ operation inRange => operation.inRange_perform inRange) operations

/-- No operation of a run on a store with the default limits finds a limit reached. -/
theorem inData_of_run (operations : List StoreOperation) :
    ∀ event ∈ (run {} operations).1, ∀ error, event.answer = .error error → error.InData := by
  have holds : (run {} operations).2.InRange ∧
      ∀ event ∈ (run {} operations).1, ∀ error, event.answer = .error error → error.InData :=
    InPlace.performAll_invariant
      (fun (events : List Event) (store : ParameterStore) => store.InRange ∧
        ∀ event ∈ events, ∀ error, event.answer = .error error → error.InData)
      ⟨inRange_empty, List.forall_mem_nil _⟩
      (fun _ _ operation holds => ⟨operation.inRange_perform holds.1,
        List.forall_mem_cons.mpr
          ⟨fun _ failed => StoreOperation.inData_of_perform holds.1 failed, holds.2⟩⟩)
      operations
  exact holds.2

end ParameterStore

end CodedVideo.Hevc
