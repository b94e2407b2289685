import CodedVideo.Decoder.Staged

/-!
# Laws of decoders

Decoders form a lawful monad, so a description can be regrouped at will. Running a sequence runs its
parts one after another, and an error ends the run where it arises.
-/

namespace CodedVideo.Decoder

/-! ## Sequencing -/

/-- The sequences of the monad are those of decoders. -/
theorem monadBind_eq {α β : Type} (decoder : Decoder α) (next : α → Decoder β) :
    decoder >>= next = decoder.bind next :=
  rfl

/-- What follows a known value is given that value. -/
theorem done_bind {α β : Type} (value : α) (next : α → Decoder β) :
    (done value).bind next = next value :=
  rfl

/-- Ending with the decoded value changes nothing. -/
theorem bind_done {α : Type} (decoder : Decoder α) : decoder.bind done = decoder := by
  induction decoder with
  | done value => rfl
  | abort error => rfl
  | ask query next ih => simp only [bind, ih]
  | within structureName offset part next _ ih => simp only [bind, ih]
  | series entry next _ ih => simp only [bind, ih]

/-- Three parts in a row can be grouped either way. -/
theorem bind_assoc {α β γ : Type} (decoder : Decoder α) (first : α → Decoder β)
    (second : β → Decoder γ) :
    (decoder.bind first).bind second = decoder.bind fun value => (first value).bind second := by
  induction decoder with
  | done value => rfl
  | abort error => rfl
  | ask query next ih => simp only [bind, ih]
  | within structureName offset part next _ ih => simp only [bind, ih]
  | series entry next _ ih => simp only [bind, ih]

instance : LawfulMonad Decoder :=
  LawfulMonad.mk' Decoder bind_done done_bind bind_assoc

/-! ## Running -/

variable {σ : Type} [BitSource σ]

/-- A sequence runs its second part on the value and the reader that the first one leaves; where the
first part fails, so does the sequence. -/
theorem run_bind {α β : Type} (decoder : Decoder α) (next : α → Decoder β) (reader : Reader σ) :
    (decoder.bind next).run reader =
      match decoder.run reader with
      | (.ok value, rest) => (next value).run rest
      | (.error error, stopped) => (.error error, stopped) := by
  induction decoder generalizing reader with
  | done value => rfl
  | abort error => rfl
  | ask query rest ih =>
      simp only [bind, run]
      split <;> simp_all
  | within structureName offset part rest _ ih =>
      simp only [bind, run]
      split <;> simp_all
  | series entry rest _ ih =>
      simp only [bind, run]
      split <;> simp_all

/-- A sequence that gives a value does so behind a value of its first part. -/
theorem ok_of_run_bind {α β : Type} {decoder : Decoder α} {next : α → Decoder β}
    {reader last : Reader σ} {result : β}
    (run_eq : (decoder.bind next).run reader = (.ok result, last)) :
    ∃ value rest, decoder.run reader = (.ok value, rest) ∧
      (next value).run rest = (.ok result, last) := by
  rw [run_bind] at run_eq
  rcases first_eq : decoder.run reader with ⟨error | value, rest⟩
  · rw [first_eq] at run_eq
    cases run_eq
  · rw [first_eq] at run_eq
    exact ⟨value, rest, rfl, run_eq⟩

/-- A part that gives a value under the name of a structure gives it by itself. -/
theorem ok_of_run_within {α : Type} {structureName : String} {offset : Option Nat}
    {part : Decoder α} {reader last : Reader σ} {result : α}
    (run_eq : (within structureName offset part done).run reader = (.ok result, last)) :
    part.run reader = (.ok result, last) := by
  rw [run] at run_eq
  rcases part_eq : part.run reader with ⟨error | value, rest⟩
  · rw [part_eq] at run_eq
    cases run_eq
  · rw [part_eq] at run_eq
    cases run_eq
    rfl

/-- A sequence that fails does so in its first part, or in its second part behind the first one. -/
theorem error_of_run_bind {α β : Type} {decoder : Decoder α} {next : α → Decoder β}
    {reader : Reader σ} {error : Error} (failed : ((decoder.bind next).run reader).1 = .error error) :
    (decoder.run reader).1 = .error error ∨
      ∃ value rest, decoder.run reader = (.ok value, rest) ∧
        ((next value).run rest).1 = .error error := by
  rw [run_bind] at failed
  rcases run_eq : decoder.run reader with ⟨stoppedWith | value, rest⟩
  · rw [run_eq] at failed
    cases failed
    exact Or.inl rfl
  · rw [run_eq] at failed
    exact Or.inr ⟨value, rest, rfl, failed⟩

/-- A part that fails under the name of a structure fails with an error that is located there. -/
theorem error_of_run_within {α : Type} {structureName : String} {offset : Option Nat}
    {part : Decoder α} {reader : Reader σ} {error : Error}
    (failed : ((within structureName offset part done).run reader).1 = .error error) :
    ∃ inner stopped, part.run reader = (.error inner, stopped) ∧
      inner.locate structureName (offset.getD stopped.position) = error := by
  rw [run] at failed
  rcases part_eq : part.run reader with ⟨inner | value, stopped⟩
  · rw [part_eq] at failed
    exact ⟨inner, stopped, rfl, Except.error.inj failed⟩
  · rw [part_eq] at failed
    cases failed

end CodedVideo.Decoder

/-! ## Stages -/

namespace CodedVideo.Staged

variable {α β : Type}

/-- A stage that decodes hands its value and its reader to the stages behind it, unless it fails. -/
theorem decode_bind_apply (decoder : Decoder α) (next : α → Staged β) (reader : EscapedReader) :
    (decode decoder >>= next) reader =
      match decoder.run reader with
      | (.ok value, rest) => next value rest
      | (.error error, stopped) => (.error error, stopped) := by
  simp only [bind, ExceptT.bind, ExceptT.mk, StateT.bind, decode]
  rcases decoder.run reader with ⟨error | value, rest⟩ <;> rfl

/-- Noting the number of bytes leaves the reader as it is. -/
theorem bytesRead_bind_apply (next : Nat → Staged β) (reader : EscapedReader) :
    (bytesRead >>= next) reader = next reader.bytesRead reader :=
  rfl

end CodedVideo.Staged
