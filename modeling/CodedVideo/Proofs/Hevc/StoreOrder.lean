import CodedVideo.Proofs.Hevc.SliceData
import CodedVideo.Proofs.Hevc.StoreRoom

/-!
# The order in which HEVC parameter sets are taken

A store with the limits that it has by default takes parameter sets under distinct identifiers, or
of distinct kinds, in either order. No parser of parameter sets looks into a store, and each set
finds room, so what an addition answers does not depend on the store at all. What differs behind two
additions in either order is only which set was taken last, and no operation asks for that.

Main statement: `ParameterStore.defaultStores_takeSetsInEitherOrder`.
-/

namespace CodedVideo.Hevc

/-! ## Stores with the same tables -/

/-- Two stores in range have the same tables. They can differ in what was taken last. -/
structure ParameterStore.Alike (store other : ParameterStore) : Prop where
  inRange : store.InRange
  otherInRange : other.InRange
  videos_eq : store.videos = other.videos
  sequences_eq : store.sequences = other.sequences
  pictures_eq : store.pictures = other.pictures

theorem ParameterStore.Alike.sliceSegment_eq {store other : ParameterStore}
    (alike : store.Alike other) (unit : List UInt8) :
    store.sliceSegment unit = other.sliceSegment unit := by
  rw [sliceSegment, sliceSegment, alike.sequences_eq, alike.pictures_eq]

namespace StoreOperation

/-- The operation adds a parameter set, or a unit that can be one. -/
def isAddition : StoreOperation → Bool
  | addVideo _ | addSequence _ | addPicture _ | addUnit _ => true
  | readSlice _ | clear => false

/-- What two operations offer is of different kinds, or has different identifiers. This holds of any
two operations one of which offers nothing that can be decoded. -/
structure DistinctFrom (first second : StoreOperation) : Prop where
  videos : ∀ set ∈ first.video?, ∀ other ∈ second.video?, set.id ≠ other.id
  sequences : ∀ set ∈ first.sequence?, ∀ other ∈ second.sequence?, set.id ≠ other.id
  pictures : ∀ set ∈ first.picture?, ∀ other ∈ second.picture?, set.id ≠ other.id

variable {first second operation : StoreOperation} {store other : ParameterStore}

theorem ne_clear_of_isAddition (adds : operation.isAddition = true) : operation ≠ clear := by
  rintro rfl
  cases adds

/-- Only a slice asks for what is stored. -/
theorem answerIn_congr
    (reads : ∀ unit, operation = readSlice unit →
      store.sliceSegment unit = other.sliceSegment unit) :
    operation.answerIn store = operation.answerIn other := by
  cases operation with
  | addVideo unit => rfl
  | addSequence unit => rfl
  | addPicture unit => rfl
  | addUnit unit => rfl
  | readSlice unit => rw [answerIn, answerIn, reads unit rfl]
  | clear => rfl

/-- Each operation answers alike on stores that are alike, and leaves them alike. -/
theorem perform_alike (alike : store.Alike other) (operation : StoreOperation) :
    (operation.perform store).1 = (operation.perform other).1 ∧
      (operation.perform store).2.Alike (operation.perform other).2 := by
  have takes := takes_perform alike.inRange operation
  have otherTakes := takes_perform alike.otherInRange operation
  constructor
  · rw [answer_eq alike.inRange, answer_eq alike.otherInRange]
    exact answerIn_congr fun unit _ => alike.sliceSegment_eq unit
  · exact {
      inRange := inRange_perform operation alike.inRange
      otherInRange := inRange_perform operation alike.otherInRange
      videos_eq := by rw [takes.videos_eq, otherTakes.videos_eq, alike.videos_eq]
      sequences_eq := by rw [takes.sequences_eq, otherTakes.sequences_eq, alike.sequences_eq]
      pictures_eq := by rw [takes.pictures_eq, otherTakes.pictures_eq, alike.pictures_eq] }

/-! ## Two additions -/

section

variable {α : Type} {idOf : α → Nat}

/-- What two additions leave of a table is the same in either order if what they offer to it has
distinct identifiers. -/
theorem leftOf_comm (firstAdds : first.isAddition = true) (secondAdds : second.isAddition = true)
    (table : IdTable α) {offered otherOffered : Option α}
    (distinct : ∀ value ∈ offered, ∀ other ∈ otherOffered, idOf value ≠ idOf other) :
    second.leftOf idOf (first.leftOf idOf table offered) otherOffered =
      first.leftOf idOf (second.leftOf idOf table otherOffered) offered := by
  simp only [leftOf_eq_taking (ne_clear_of_isAddition firstAdds),
    leftOf_eq_taking (ne_clear_of_isAddition secondAdds)]
  exact IdTable.taking_comm table distinct

end

/-- An addition answers the same in front of any operation and behind it. -/
theorem answer_perform_eq (inRange : store.InRange) (adds : operation.isAddition = true)
    (other : StoreOperation) :
    (operation.perform (other.perform store).2).1 = (operation.perform store).1 := by
  rw [answer_eq (inRange_perform other inRange), answer_eq inRange]
  refine answerIn_congr ?_
  rintro unit rfl
  cases adds

/-- Behind two additions that are distinct from each other the tables are the same in either order.
-/
theorem perform_perform_alike (inRange : store.InRange) (firstAdds : first.isAddition = true)
    (secondAdds : second.isAddition = true) (distinct : first.DistinctFrom second) :
    (second.perform (first.perform store).2).2.Alike
      (first.perform (second.perform store).2).2 := by
  have firstInRange := inRange_perform first inRange
  have secondInRange := inRange_perform second inRange
  have firstTakes := takes_perform inRange first
  have thenSecond := takes_perform firstInRange second
  have secondTakes := takes_perform inRange second
  have thenFirst := takes_perform secondInRange first
  refine ⟨inRange_perform second firstInRange, inRange_perform first secondInRange, ?_, ?_, ?_⟩
  · rw [thenSecond.videos_eq, firstTakes.videos_eq, thenFirst.videos_eq, secondTakes.videos_eq]
    exact leftOf_comm firstAdds secondAdds store.videos distinct.videos
  · rw [thenSecond.sequences_eq, firstTakes.sequences_eq, thenFirst.sequences_eq,
      secondTakes.sequences_eq]
    exact leftOf_comm firstAdds secondAdds store.sequences distinct.sequences
  · rw [thenSecond.pictures_eq, firstTakes.pictures_eq, thenFirst.pictures_eq,
      secondTakes.pictures_eq]
    exact leftOf_comm firstAdds secondAdds store.pictures distinct.pictures

end StoreOperation

/-! ## Runs -/

namespace ParameterStore

/-- What a run on a store with the default limits answers, from the first operation on. -/
def answers (operations : List StoreOperation) : List (Except Error StoreAnswer) :=
  InPlace.answers StoreOperation.perform operations {}

/-- The order of two neighbouring operations of a run on a store with the default limits does not
matter: each of the two answers the same, and so does every operation in front of them and behind
them. The tables at the end are the same, and so is what is decoded against them. -/
structure EitherOrder (front back : List StoreOperation) (first second : StoreOperation) : Prop where
  answers_eq : ∃ earlier firstAnswer secondAnswer later,
    earlier.length = front.length ∧
      answers (front ++ first :: second :: back) =
        earlier ++ firstAnswer :: secondAnswer :: later ∧
      answers (front ++ second :: first :: back) =
        earlier ++ secondAnswer :: firstAnswer :: later
  videos_eq : (run {} (front ++ first :: second :: back)).2.videos =
    (run {} (front ++ second :: first :: back)).2.videos
  sequences_eq : (run {} (front ++ first :: second :: back)).2.sequences =
    (run {} (front ++ second :: first :: back)).2.sequences
  pictures_eq : (run {} (front ++ first :: second :: back)).2.pictures =
    (run {} (front ++ second :: first :: back)).2.pictures
  sliceSegment_eq : ∀ unit, (run {} (front ++ first :: second :: back)).2.sliceSegment unit =
    (run {} (front ++ second :: first :: back)).2.sliceSegment unit

/-- The store behind a run with two neighbouring operations. -/
theorem run_append_pair (front back : List StoreOperation) (first second : StoreOperation) :
    (run {} (front ++ first :: second :: back)).2 =
      (InPlace.performAll StoreOperation.perform back
        (second.perform (first.perform (run {} front).2).2).2).2 := by
  rw [run, InPlace.performAll_append, InPlace.performAll_cons, InPlace.performAll_cons, run]

theorem answers_append_pair (front back : List StoreOperation) (first second : StoreOperation) :
    answers (front ++ first :: second :: back) =
      answers front ++ (first.perform (run {} front).2).1 ::
        (second.perform (first.perform (run {} front).2).2).1 ::
          InPlace.answers StoreOperation.perform back
            (second.perform (first.perform (run {} front).2).2).2 := by
  rw [answers, InPlace.answers_append, InPlace.answers_cons, InPlace.answers_cons]
  rfl

/-- Additions that are distinct from each other can be performed in either order. -/
theorem eitherOrder (front back : List StoreOperation) {first second : StoreOperation}
    (firstAdds : first.isAddition = true) (secondAdds : second.isAddition = true)
    (distinct : first.DistinctFrom second) : EitherOrder front back first second := by
  have inRange := inRange_run front
  have alike := StoreOperation.perform_perform_alike inRange firstAdds secondAdds distinct
  rcases InPlace.performAll_alike StoreOperation.perform_alike alike back with
    ⟨later_eq, lastAlike⟩
  rw [← run_append_pair, ← run_append_pair] at lastAlike
  have inOrder := answers_append_pair front back first second
  have swapped := answers_append_pair front back second first
  rw [StoreOperation.answer_perform_eq inRange secondAdds] at inOrder
  rw [StoreOperation.answer_perform_eq inRange firstAdds, ← later_eq] at swapped
  exact {
    answers_eq := ⟨_, _, _, _, InPlace.length_answers front _, inOrder, swapped⟩
    videos_eq := lastAlike.videos_eq
    sequences_eq := lastAlike.sequences_eq
    pictures_eq := lastAlike.pictures_eq
    sliceSegment_eq := lastAlike.sliceSegment_eq }

/-- A store that is given no limits never runs out of room, whatever operations are performed on it,
and two neighbouring additions of different kinds or under different identifiers can be performed
in either order. -/
theorem defaultStores_takeSetsInEitherOrder :
    (∀ operations, ∀ event ∈ (run {} operations).1, ∀ description,
        event.answer ≠ .error (.resourceExhausted description)) ∧
      ∀ front back (first second : StoreOperation), first.isAddition = true →
        second.isAddition = true → first.DistinctFrom second →
          EitherOrder front back first second := by
  constructor
  · intro operations event isListed description failed
    exact (inData_of_run operations event isListed _ failed).ne_exhausted description rfl
  · intro front back first second firstAdds secondAdds distinct
    exact eitherOrder front back firstAdds secondAdds distinct

/-- Two video parameter sets can change places in front of the sets of a slice, and so can the two
sets that the slice refers to. All of them are decoded, and so is the slice. -/
theorem defaultStores_takeSetsInEitherOrder_samples :
    let video (id : UInt8) : StoreOperation := .addVideo
      [0x40, 0x01, 16 * id + 0x0c, 0x01, 0xff, 0xff, 0x01, 0x60, 0x00, 0x00, 0x03, 0x00, 0x90, 0x00,
        0x00, 0x03, 0x00, 0x00, 0x03, 0x00, 0x78, 0x95, 0x98, 0x09]
    let sequence : StoreOperation := .addUnit
      [0x42, 0x01, 0x01, 0x01, 0x60, 0x00, 0x00, 0x03, 0x00, 0x90, 0x00, 0x00, 0x03, 0x00, 0x00,
        0x03, 0x00, 0x78, 0xa0, 0x03, 0xc0, 0x80, 0x10, 0xe5, 0x96, 0x56, 0x69, 0x24, 0xca, 0xe0,
        0x10, 0x00, 0x00, 0x03, 0x00, 0x10, 0x00, 0x00, 0x03, 0x01, 0xe0, 0x80]
    let picture : StoreOperation := .addUnit [0x44, 0x01, 0xc1, 0x72, 0xb4, 0x62, 0x40]
    let slice : StoreOperation := .readSlice SliceSegment.sampleSegment
    ((video 0).video?.map (·.id) = some 0 ∧ (video 1).video?.map (·.id) = some 1 ∧
        EitherOrder [] [sequence, picture, slice] (video 0) (video 1)) ∧
      (sequence.sequence?.map (·.id) = some 0 ∧ picture.picture?.map (·.id) = some 0 ∧
        EitherOrder [video 0] [video 1, slice] sequence picture) ∧
      (answers [video 0, video 1, sequence, picture, slice]).all (·.isOk) = true := by
  intro video sequence picture slice
  have firstId : (video 0).video?.map (·.id) = some 0 := by decide +kernel
  have secondId : (video 1).video?.map (·.id) = some 1 := by decide +kernel
  have sequenceId : sequence.sequence?.map (·.id) = some 0 := by decide +kernel
  have pictureId : picture.picture?.map (·.id) = some 0 := by decide +kernel
  have videosDiffer : (video 0).DistinctFrom (video 1) :=
    ⟨IdTable.idOf_ne_of_map_eq firstId secondId Nat.zero_ne_one,
      IdTable.idOf_ne_of_eq_none (.inl rfl), IdTable.idOf_ne_of_eq_none (.inl rfl)⟩
  have kindsDiffer : sequence.DistinctFrom picture :=
    ⟨IdTable.idOf_ne_of_eq_none (.inl (by decide +kernel)),
      IdTable.idOf_ne_of_eq_none (.inr (by decide +kernel)),
      IdTable.idOf_ne_of_eq_none (.inl (by decide +kernel))⟩
  have inEitherOrder := defaultStores_takeSetsInEitherOrder.2
  exact ⟨⟨firstId, secondId, inEitherOrder _ _ _ _ rfl rfl videosDiffer⟩,
    ⟨sequenceId, pictureId, inEitherOrder _ _ _ _ rfl rfl kindsDiffer⟩, by decide +kernel⟩

end ParameterStore

end CodedVideo.Hevc
