import CodedVideo.Error

/-!
# Changes in place

An operation that changes a store does so in steps, and an error may end it between two of them. So
it gives an answer or an error, and in either case the store as it then stands.
-/

namespace CodedVideo

/-- Steps that change a store in place, up to an answer or an error. -/
abbrev InPlace (σ : Type) := ExceptT Error (StateM σ)

namespace InPlace

variable {σ α β γ : Type}

/-- What is done to a store at once: behind an error it stands as before. -/
def atOnce (result : Except Error (α × σ)) (store : σ) : Except Error α × σ :=
  match result with
  | .ok (answer, next) => (.ok answer, next)
  | .error error => (.error error, store)

/-- Puts a value into a store that has room for it, then notes that it did, and answers with the
identifier of the value. -/
def putIfRoom (hasRoom : σ → Bool) (full : Error) (put note : σ → σ) (id : Nat) : InPlace σ Nat := do
  if hasRoom (← get) then
    modify put
    modify note
    return id
  else throw full

/-- A step that fails ends the steps where it stands. -/
theorem ofExcept_bind_apply (result : Except Error α) (next : α → InPlace σ β) (store : σ) :
    (MonadExcept.ofExcept result >>= next) store =
      match result with
      | .ok value => next value store
      | .error error => (.error error, store) := by
  cases result with
  | ok value => rfl
  | error error => rfl

/-- Looking at the store changes nothing. -/
theorem get_bind_apply (next : σ → InPlace σ α) (store : σ) : (get >>= next) store = next store store :=
  rfl

/-- An answer in another form comes with the same change. -/
theorem map_apply (form : α → β) (steps : InPlace σ α) (store : σ) :
    (form <$> steps) store = ((steps store).1.map form, (steps store).2) := by
  simp only [Functor.map, ExceptT.map, ExceptT.mk, bind, StateT.bind]
  rcases steps store with ⟨error | answer, next⟩
  · rfl
  · rfl

/-- An answer in another form comes with what is done at once. -/
theorem map_atOnce (form : α → β) (result : Except Error (α × σ)) (store : σ) :
    ((atOnce result store).1.map form, (atOnce result store).2) =
      atOnce (result.map (Prod.map form id)) store := by
  cases result with
  | error error => rfl
  | ok answer => rfl

theorem atOnce_eq_error_iff {result : Except Error (α × σ)} {store : σ} {error : Error} :
    (atOnce result store).1 = .error error ↔ result = .error error := by
  cases result with
  | error => simp [atOnce]
  | ok => simp [atOnce]

/-- What is put into a store in steps is put into it at once. -/
theorem putIfRoom_apply (hasRoom : σ → Bool) (full : Error) (put note : σ → σ) (id : Nat) (store : σ) :
    putIfRoom hasRoom full put note id store =
      if hasRoom store then (.ok id, note (put store)) else (.error full, store) := by
  rw [putIfRoom, get_bind_apply]
  split
  · rfl
  · rfl

/-- What is decoded and then put into a store in steps is put into it at once. -/
theorem ofExcept_bind_putIfRoom_apply (decoded : Except Error α) (hasRoom : α → σ → Bool)
    (full : Error) (put note : α → σ → σ) (idOf : α → Nat) (store : σ) :
    (MonadExcept.ofExcept decoded >>= fun value =>
        putIfRoom (hasRoom value) full (put value) (note value) (idOf value)) store =
      atOnce (decoded >>= fun value =>
        if hasRoom value store then .ok (idOf value, note value (put value store))
        else .error full) store := by
  rw [ofExcept_bind_apply]
  cases decoded with
  | error error => rfl
  | ok value =>
      simp only [putIfRoom_apply, bind, Except.bind]
      split
      · rfl
      · rfl

/-- What is decoded is taken if it finds room. Otherwise nothing is, and there was nothing to take:
either no value was decoded, or the one that was finds no room. -/
theorem takeIfRoom_cases {Ends : Except Error β × σ → Prop} {decoded : Except Error α}
    {hasRoom : α → Bool} {full : Error} {idOf : α → Nat} {next : α → σ} {store : σ} (form : Nat → β)
    (took : ∀ value, decoded.toOption = some value → hasRoom value = true →
      Ends (.ok (form (idOf value)), next value))
    (refused : ∀ error, (∀ value, decoded.toOption = some value → hasRoom value = false) →
      Ends (.error error, store)) :
    Ends (atOnce ((decoded >>= fun value =>
      if hasRoom value then .ok (idOf value, next value) else .error full).map
        (Prod.map form id)) store) := by
  cases decoded with
  | error error => exact refused error nofun
  | ok value =>
      simp only [bind, Except.bind]
      split
      · next finds => exact took value rfl finds
      · next noRoom =>
        refine refused full fun other isDecoded => ?_
        cases isDecoded
        exact Bool.eq_false_iff.mpr noRoom

/-- Where each value finds room, the answer is that of decoding. -/
theorem takeIfRoom_answer {decoded : Except Error α} {hasRoom : α → Bool} {full : Error}
    {idOf : α → Nat} {next : α → σ} {store : σ} (form : Nat → β)
    (finds : ∀ value, decoded.toOption = some value → hasRoom value = true) :
    (atOnce ((decoded >>= fun value =>
      if hasRoom value then .ok (idOf value, next value) else .error full).map
        (Prod.map form id)) store).1 = decoded.map fun value => form (idOf value) := by
  cases decoded with
  | error error => rfl
  | ok value =>
      simp only [bind, Except.bind, if_pos (finds value rfl)]
      rfl

/-- What is not taken could not be decoded, or it finds no room. -/
theorem of_takeIfRoom_eq_error {decoded : Except Error α} {hasRoom : α → Bool} {full error : Error}
    {next : α → β}
    (failed : (decoded >>= fun value =>
      if hasRoom value then .ok (next value) else .error full) = .error error) :
    decoded = .error error ∨ error = full := by
  cases decoded with
  | error earlier =>
      cases failed
      exact Or.inl rfl
  | ok value =>
      simp only [bind, Except.bind] at failed
      split at failed
      · cases failed
      · cases failed
        exact Or.inr rfl

/-- An answer that stands for another one is passed on with the same store. -/
theorem map_answer_with (result : Except Error (α × σ)) (answer : β) (form : β → γ) :
    Except.map (Prod.map form id) (do return (answer, (← result).2)) =
      result.map (Prod.map (fun _ => form answer) id) := by
  cases result with
  | error error => rfl
  | ok value => rfl

/-- What is not offered finds no room, in whatever table. -/
theorem refuses_of_eq_none {offered? : Option α} (noOffer : offered? = none) (hasRoom : α → Bool) :
    ∀ value, offered? = some value → hasRoom value = false := by
  intro value isOffered
  cases noOffer.symm.trans isOffered

/-- What would find room and is refused is not offered. -/
theorem eq_none_of_refuses {offered? : Option α} {hasRoom : α → Bool}
    (finds : ∀ value, offered? = some value → hasRoom value = true)
    (refuses : ∀ value, offered? = some value → hasRoom value = false) : offered? = none := by
  cases isOffered : offered? with
  | none => rfl
  | some value => cases (finds value isOffered).symm.trans (refuses value isOffered)

/-- A value that is offered was decoded from a unit. -/
theorem exists_unit_of_offered {ofUnit : List UInt8 → Except Error α}
    {offered? : Option (List UInt8)} {value : α}
    (isOffered : (offered?.bind fun unit => (ofUnit unit).toOption) = some value) :
    ∃ unit, ofUnit unit = .ok value := by
  obtain ⟨unit, -, isDecoded⟩ := Option.bind_eq_some_iff.mp isOffered
  exists unit
  cases decoded_eq : ofUnit unit with
  | error error =>
      rw [decoded_eq] at isDecoded
      cases isDecoded
  | ok decoded =>
      rw [decoded_eq] at isDecoded
      cases isDecoded
      rfl

/-- What is refused has either not been decoded or finds no room. -/
theorem refused_iff {offered? : Option α} {hasRoom : α → Bool}
    (refuses : ∀ value, offered? = some value → hasRoom value = false) (error : Error) :
    (Except.error error : Except Error β).isOk = true ↔
      ∃ value, offered? = some value ∧ hasRoom value = true := by
  refine ⟨nofun, fun ⟨value, isOffered, finds⟩ => ?_⟩
  rw [refuses value isOffered] at finds
  cases finds

end InPlace

/-- What is kept of a decoded value is the value, or what of it was decoded before decoding stopped.
-/
theorem Interruption.keepDecoded_toOption {α : Type} {result : Except (Interruption α) α} {value : α} :
    (keepDecoded result).toOption = some value ↔
      result = .ok value ∨ ∃ error, result = .error (.incomplete value error) := by
  rcases result with (error | ⟨decoded, error⟩) | decoded
  · simp [keepDecoded, Except.toOption]
  · simp [keepDecoded, Except.toOption]
  · simp [keepDecoded, Except.toOption]

/-! ## Runs -/

/-- An operation that was performed on a store, with the store as it stood before, and the answer.
-/
structure StoreEvent (ω σ ρ : Type) where
  operation : ω
  before : σ
  answer : Except Error ρ

namespace InPlace

variable {σ ω ρ : Type}

/-- Performs operations on a store in turn. The events are listed from the latest one on. -/
def performAll (perform : ω → InPlace σ ρ) (operations : List ω) (store : σ) :
    List (StoreEvent ω σ ρ) × σ :=
  operations.foldl
    (fun state operation =>
      let next := perform operation state.2
      (⟨operation, state.2, next.1⟩ :: state.1, next.2))
    ([], store)

/-- What holds of a store without a history and is kept by each operation holds behind every run. -/
theorem performAll_invariant {perform : ω → InPlace σ ρ}
    (Holds : List (StoreEvent ω σ ρ) → σ → Prop) {store : σ} (start : Holds [] store)
    (step : ∀ events store operation, Holds events store →
      Holds (⟨operation, store, (perform operation store).1⟩ :: events)
        (perform operation store).2)
    (operations : List ω) :
    Holds (performAll perform operations store).1 (performAll perform operations store).2 := by
  rw [performAll]
  -- The induction is on the operations, for any events that are listed already.
  generalize ([] : List (StoreEvent ω σ ρ)) = events at start ⊢
  induction operations generalizing events store with
  | nil => exact start
  | cons operation operations inductionHypothesis =>
      exact inductionHypothesis _ (step events store operation start)

/-- The answers of a run, from that of the first operation on. -/
def answers (perform : ω → InPlace σ ρ) (operations : List ω) (store : σ) :
    List (Except Error ρ) :=
  ((performAll perform operations store).1.map (·.answer)).reverse

variable {perform : ω → InPlace σ ρ}

/-- A run performs its first operation, and the others on the store behind it. -/
theorem performAll_cons (operation : ω) (operations : List ω) (store : σ) :
    performAll perform (operation :: operations) store =
      ((performAll perform operations (perform operation store).2).1 ++
          [⟨operation, store, (perform operation store).1⟩],
        (performAll perform operations (perform operation store).2).2) := by
  -- Events that are listed already stay behind those of the run.
  let behind (state : List (StoreEvent ω σ ρ) × σ) : List (StoreEvent ω σ ρ) × σ :=
    (state.1 ++ [⟨operation, store, (perform operation store).1⟩], state.2)
  exact @List.foldl_hom _ _ _ behind _ _ operations ([], (perform operation store).2) fun _ _ => rfl

theorem performAll_append (front back : List ω) (store : σ) :
    (performAll perform (front ++ back) store).2 =
      (performAll perform back (performAll perform front store).2).2 := by
  induction front generalizing store with
  | nil => rfl
  | cons operation front inductionHypothesis =>
      rw [List.cons_append, performAll_cons, performAll_cons]
      exact inductionHypothesis _

theorem answers_cons (operation : ω) (operations : List ω) (store : σ) :
    answers perform (operation :: operations) store =
      (perform operation store).1 :: answers perform operations (perform operation store).2 := by
  simp only [answers, performAll_cons, List.map_append, List.map_cons, List.map_nil,
    List.reverse_append, List.reverse_cons, List.reverse_nil, List.nil_append, List.cons_append]

theorem answers_append (front back : List ω) (store : σ) :
    answers perform (front ++ back) store =
      answers perform front store ++ answers perform back (performAll perform front store).2 := by
  induction front generalizing store with
  | nil => rfl
  | cons operation front inductionHypothesis =>
      rw [List.cons_append, answers_cons, answers_cons, inductionHypothesis, performAll_cons]
      rfl

theorem length_answers (operations : List ω) (store : σ) :
    (answers perform operations store).length = operations.length := by
  induction operations generalizing store with
  | nil => rfl
  | cons operation operations inductionHypothesis =>
      rw [answers_cons, List.length_cons, List.length_cons, inductionHypothesis]

/-- Stores on which each operation answers alike, and which it leaves alike, are alike for every
run. -/
theorem performAll_alike {Alike : σ → σ → Prop}
    (step : ∀ {store other}, Alike store other → ∀ operation,
      (perform operation store).1 = (perform operation other).1 ∧
        Alike (perform operation store).2 (perform operation other).2)
    {store other : σ} (alike : Alike store other) (operations : List ω) :
    answers perform operations store = answers perform operations other ∧
      Alike (performAll perform operations store).2 (performAll perform operations other).2 := by
  induction operations generalizing store other with
  | nil => exact ⟨rfl, alike⟩
  | cons operation operations inductionHypothesis =>
      rcases step alike operation with ⟨answer_eq, nextAlike⟩
      rcases inductionHypothesis nextAlike with ⟨answers_eq, lastAlike⟩
      rw [answers_cons, answers_cons, performAll_cons, performAll_cons, answer_eq, answers_eq]
      exact ⟨rfl, lastAlike⟩

end InPlace

end CodedVideo
