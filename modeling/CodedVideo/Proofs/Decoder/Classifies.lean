import CodedVideo.Proofs.Decoder.Yields

/-!
# Decoding only what classifies a value

A grammar may be read only as far as the class of its value is known, by a shorter decoder. It
classifies the grammar if the two agree on every reader: where the grammar gives a value the shorter
one gives its class, and where the shorter one fails the grammar fails in the same place with the
same error.

The two need not attribute faults to a structure in the same pieces. Naming a structure over a
sequence comes to the same as naming it over each part, since a fault is attributed to the bit where
the run stopped.

Main statements: the rules `Classifies.located_bind` and `Classifies.done`.
-/

namespace CodedVideo.Decoder

variable {α β γ : Type}

/-- The classifier gives the class of each value that the decoder gives, and the decoder fails as the
classifier does wherever that fails. -/
structure Classifies (classifier : Decoder γ) (decoder : Decoder α) (classOf : α → γ) : Prop where
  run_of_ok : ∀ {σ : Type} [BitSource σ] (reader last : Reader σ) (value : α),
    decoder.run reader = (.ok value, last) →
      ∃ stopped, classifier.run reader = (.ok (classOf value), stopped)
  run_of_error : ∀ {σ : Type} [BitSource σ] (reader stopped : Reader σ) (error : Error),
    classifier.run reader = (.error error, stopped) →
      decoder.run reader = (.error error, stopped)

/-- Naming a structure over a sequence comes to the same as naming it over each part. -/
theorem run_located_bind (structureName : String) (first : Decoder β) (next : β → Decoder α)
    {σ : Type} [BitSource σ] (reader : Reader σ) :
    (located structureName (first.bind next)).run reader =
      ((located structureName first).bind fun value =>
        located structureName (next value)).run reader := by
  rw [located, run_within, run_bind, run_bind, located, run_within]
  rcases first.run reader with ⟨error | value, between⟩
  · rfl
  · exact (run_within structureName none (next value) Decoder.done between).symm

/-- A position that is asked for is the one of the reader. -/
theorem run_located_position (structureName : String) (next : Nat → Decoder α)
    {σ : Type} [BitSource σ] (reader : Reader σ) :
    (located structureName (position.bind next)).run reader =
      (located structureName (next reader.position)).run reader := by
  have run_eq : (position.bind next).run reader = (next reader.position).run reader := rfl
  rw [located, run_within, run_eq, located, run_within]

namespace Classifies

variable {classifier : Decoder γ} {decoder : Decoder α} {classOf : α → γ} {kind : γ}

/-- What is known to be the class of every value needs no read. -/
theorem done (yields : Yields decoder fun value => classOf value = kind) :
    Classifies (Decoder.done kind) decoder classOf where
  run_of_ok reader last value run_eq :=
    ⟨reader, congrArg (Except.ok · , reader) (yields.of_run reader last value run_eq).symm⟩
  run_of_error _ _ _ failed := nomatch failed

/-- A first part that is shared is followed by what classifies the rest. -/
theorem bind {first : Decoder β} {next : β → Decoder γ} {rest : β → Decoder α}
    (nexts : ∀ value, Classifies (next value) (rest value) classOf) :
    Classifies (first.bind next) (first.bind rest) classOf where
  run_of_ok reader last value run_eq := by
    obtain ⟨middle, between, first_eq, rest_eq⟩ := ok_of_run_bind run_eq
    obtain ⟨stopped, next_eq⟩ := (nexts middle).run_of_ok between last value rest_eq
    exists stopped
    rw [run_bind, first_eq]
    exact next_eq
  run_of_error reader stopped error failed := by
    rw [run_bind] at failed ⊢
    rcases first_eq : first.run reader with ⟨inner | middle, between⟩
    · rw [first_eq] at failed
      cases failed
      rfl
    · rw [first_eq] at failed
      exact (nexts middle).run_of_error between stopped error failed

/-- What classifies a decoder classifies every decoder that is run alike. -/
theorem of_run_eq {other : Decoder α} (classifies : Classifies classifier decoder classOf)
    (run_eq : ∀ {σ : Type} [BitSource σ] (reader : Reader σ),
      other.run reader = decoder.run reader) : Classifies classifier other classOf where
  run_of_ok reader last value isDecoded :=
    classifies.run_of_ok reader last value ((run_eq reader).symm.trans isDecoded)
  run_of_error reader stopped error failed :=
    (run_eq reader).trans (classifies.run_of_error reader stopped error failed)

/-- The classifier may end the structure behind a shared first part. -/
theorem located_bind {structureName : String} {first : Decoder β} {next : β → Decoder γ}
    {rest : β → Decoder α}
    (nexts : ∀ value, Classifies (next value) (located structureName (rest value)) classOf) :
    Classifies ((located structureName first).bind next)
      (located structureName (first.bind rest)) classOf :=
  (bind nexts).of_run_eq (run_located_bind structureName first rest)

/-- The classifier need not ask for a position. -/
theorem located_position {structureName : String} {rest : Nat → Decoder α}
    (classifies : ∀ position, Classifies classifier (located structureName (rest position)) classOf) :
    Classifies classifier (located structureName (position.bind rest)) classOf where
  run_of_ok reader last value run_eq := by
    rw [run_located_position] at run_eq
    exact (classifies reader.position).run_of_ok reader last value run_eq
  run_of_error reader stopped error failed := by
    rw [run_located_position]
    exact (classifies reader.position).run_of_error reader stopped error failed

/-! ## Units -/

/-- Of a unit that is decoded the class is found. -/
theorem decodeUnit_of_ok (classifies : Classifies classifier decoder classOf) {unit : List UInt8}
    {value : α} (isDecoded : decoder.decodeUnit unit = .ok value) :
    classifier.decodeUnit unit = .ok (classOf value) := by
  rcases run_eq : decoder.run (EscapedReader.ofUnit unit) with ⟨result, last⟩
  rw [decodeUnit, run_eq] at isDecoded
  cases isDecoded
  obtain ⟨stopped, found_eq⟩ := classifies.run_of_ok _ last value run_eq
  exact congrArg Prod.fst found_eq

/-- A unit whose class is not found is not decoded either. -/
theorem decodeUnit_of_error (classifies : Classifies classifier decoder classOf)
    {unit : List UInt8} {error : Error} (failed : classifier.decodeUnit unit = .error error) :
    decoder.decodeUnit unit = .error error := by
  rcases run_eq : classifier.run (EscapedReader.ofUnit unit) with ⟨result, stopped⟩
  rw [decodeUnit, run_eq] at failed
  cases failed
  exact congrArg Prod.fst (classifies.run_of_error _ stopped error run_eq)

end Classifies

end CodedVideo.Decoder
