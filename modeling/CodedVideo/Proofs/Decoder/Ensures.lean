import CodedVideo.Decoder.Laws
import CodedVideo.Proofs.Decoder.InStep

/-!
# What decoders ensure

A decoder ensures a condition if it holds of every value that the decoder gives and of the reader
that it leaves, provided that another condition holds of the reader in front. Each form of a
description has a rule by which what it ensures follows from what its parts ensure.
-/

namespace CodedVideo.Decoder

variable {σ : Type} [BitSource σ] {α β : Type}

/-- Behind a run that starts where `before` holds and gives a value, `after` holds. -/
def Ensures (before : Reader σ → Prop) (decoder : Decoder α) (after : α → Reader σ → Prop) : Prop :=
  ∀ (reader last : Reader σ) (value : α), before reader →
    decoder.run reader = (.ok value, last) → after value last

namespace Ensures

variable {before : Reader σ → Prop} {after : α → Reader σ → Prop}

/-! ## Single steps -/

theorem done {value : α} (holds : ∀ reader, before reader → after value reader) :
    Ensures before (Decoder.done value) after := by
  intro reader last result starts run_eq
  cases run_eq
  exact holds reader starts

theorem abort {error : Error} : Ensures before (Decoder.abort error) after := by
  intro reader last result _ run_eq
  cases run_eq

/-- What is ensured of a read holds behind it. -/
theorem ask {query : Query α}
    (holds : ∀ (reader last : Reader σ) (value : α), before reader →
      query.answer reader = (.ok value, last) → after value last) :
    Ensures before (Decoder.ask query Decoder.done) after := by
  intro reader last result starts run_eq
  rw [run_ask] at run_eq
  rcases answer_eq : query.answer reader with ⟨fault | value, rest⟩
  · rw [answer_eq] at run_eq
    cases run_eq
  · rw [answer_eq] at run_eq
    cases run_eq
    exact holds reader last result starts answer_eq

/-- A position that is asked for is the one of the reader. -/
theorem position :
    Ensures before Decoder.position fun position reader =>
      before reader ∧ position = reader.position := by
  apply ask
  intro reader last value starts answer_eq
  cases answer_eq
  exact ⟨starts, rfl⟩

/-- Behind a requirement its condition holds. -/
theorem require {condition : Bool} {error : Error} :
    Ensures before (Decoder.require condition error) fun _ reader =>
      before reader ∧ condition = true := by
  cases condition with
  | true => exact done fun _ starts => ⟨starts, rfl⟩
  | false => exact abort

/-! ## Composition -/

/-- A sequence ensures what its second part does, if the first part ensures what that asks for. -/
theorem bind {first : Decoder β} {next : β → Decoder α} {middle : β → Reader σ → Prop}
    (part : Ensures before first middle)
    (nexts : ∀ value, Ensures (middle value) (next value) after) :
    Ensures before (first.bind next) after := by
  intro reader last result starts run_eq
  obtain ⟨value, rest, first_eq, next_eq⟩ := ok_of_run_bind run_eq
  exact nexts value rest last result (part reader rest value starts first_eq) next_eq

/-- Naming the structure of a part changes nothing of what it ensures. -/
theorem within {structureName : String} {offset : Option Nat} {part : Decoder α}
    (holds : Ensures before part after) :
    Ensures before (Decoder.within structureName offset part Decoder.done) after := by
  intro reader last result starts run_eq
  exact holds reader last result starts (ok_of_run_within run_eq)

/-- What holds of fewer values and readers is ensured from more of them. -/
theorem weaken {decoder : Decoder α} {earlier : Reader σ → Prop} {later : α → Reader σ → Prop}
    (holds : Ensures before decoder after) (starts : ∀ reader, earlier reader → before reader)
    (ends : ∀ value reader, after value reader → later value reader) :
    Ensures earlier decoder later := by
  intro reader last value isEarlier run_eq
  exact ends value last (holds reader last value (starts reader isEarlier) run_eq)

/-- What is ensured twice holds together. -/
theorem and {decoder : Decoder α} {otherBefore : Reader σ → Prop} {otherAfter : α → Reader σ → Prop}
    (holds : Ensures before decoder after) (others : Ensures otherBefore decoder otherAfter) :
    Ensures (fun reader => before reader ∧ otherBefore reader) decoder
      fun value reader => after value reader ∧ otherAfter value reader := by
  intro reader last value starts run_eq
  constructor
  · exact holds reader last value starts.1 run_eq
  · exact others reader last value starts.2 run_eq

/-- What every step of the source keeps, every decoder keeps. -/
theorem of_preserved [FiniteSource σ] {kept : σ → Prop}
    (preserved : ∀ {source rest : σ} {bit : Bool},
      BitSource.next source = some (bit, rest) → kept source → kept rest)
    (decoder : Decoder α) :
    Ensures (fun reader => kept reader.source) decoder fun _ reader => kept reader.source := by
  intro reader last value starts run_eq
  have readers : ReadersRelated (fun first second => first = second ∧ kept first) reader reader :=
    ⟨⟨rfl, starts⟩, rfl⟩
  have alike := decoder.run_alike (fun impossible => impossible.elim)
    (InStep.of_preserved preserved) readers
  have lasts := alike.together.2
  rw [run_eq] at lasts
  exact lasts.sources.2

/-! ## Repetition -/

/-- Steps that each carry an invariant on, given the number of steps that remain, carry it to the
end. -/
theorem foldFrom {step : Nat → α → Decoder α} (invariant : Nat → α → Reader σ → Prop)
    (steps : ∀ count index state,
      Ensures (invariant (count + 1) state) (step index state) (invariant count))
    (count index : Nat) (state : α) :
    Ensures (invariant count state) (Decoder.foldFrom step count index state) (invariant 0) := by
  induction count generalizing index state with
  | zero => exact done fun _ starts => starts
  | succ count inductionHypothesis =>
      refine bind (steps count index state) ?_
      intro next
      exact inductionHypothesis (index + 1) next

/-- Items that each carry an invariant on carry it to the end. -/
theorem replicate {item : Decoder β} (invariant : Nat → Reader σ → Prop)
    (items : ∀ count, Ensures (invariant (count + 1)) item fun _ => invariant count) (count : Nat) :
    Ensures (invariant count) (Decoder.replicate count item) fun _ => invariant 0 := by
  have steps (count index : Nat) (values : List β) :
      Ensures (invariant (count + 1)) (item.bind fun value => Decoder.done (value :: values))
        fun _ => invariant count := by
    refine bind (items count) ?_
    intro value
    exact done fun _ holds => holds
  refine bind (foldFrom (fun count _ => invariant count) steps count 0 []) ?_
  intro values
  exact done fun _ holds => holds

end Ensures

end CodedVideo.Decoder
