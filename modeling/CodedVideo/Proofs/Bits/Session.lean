import CodedVideo.Proofs.Bits.InStep

/-!
# Sessions with a reader

A session is a finite sequence of reader operations, each of which may be chosen by all that was
observed before it. Between two operations the user of a reader sees the result of the last one and
the position, the alignment and the fault of the reader that it left. Readers whose sources are in
step show the same in every session.
-/

namespace CodedVideo

/-- An operation of a reader. -/
inductive ReaderOperation where
  /-- Read a number of at most 32 bits. -/
  | bits (count : Nat)
  /-- Read a number of at most 64 bits. -/
  | wideBits (count : Nat)
  /-- Read one bit. -/
  | flag
  /-- Read a number of 8 bits. -/
  | byte
  /-- Read a number of 16 bits. -/
  | twoBytes
  /-- Pass over bits. -/
  | skip (count : Nat)
  /-- Pass over the bits up to the next byte boundary. -/
  | align
  /-- Read an unsigned Exp-Golomb code. -/
  | unsigned
  /-- Read a signed Exp-Golomb code. -/
  | signed
  /-- Latch a fault. -/
  | fail (fault : BitFault)
  /-- Forget the latched fault. -/
  | clear
deriving DecidableEq, Repr

/-- The value that an operation answers with. -/
inductive Answer where
  | number (value : Nat)
  | flag (value : Bool)
  | signed (value : Int)
  | nothing
deriving DecidableEq, Repr

/-- What is seen behind an operation. -/
structure Observation where
  result : Except BitFault Answer
  position : Nat
  isByteAligned : Bool
  fault : Option BitFault

/-- A sequence of operations, each of which depends on what was observed so far. -/
inductive Session where
  /-- No operation follows. -/
  | stop
  /-- An operation, and what follows for each observation. -/
  | perform (operation : ReaderOperation) (next : Observation → Session)

variable {σ τ : Type} [BitSource σ] [BitSource τ]

/-- Performs one operation. -/
def ReaderOperation.perform : ReaderOperation → ReadM σ Answer
  | bits count => Answer.number <$> Reader.readBits count
  | wideBits count => Answer.number <$> Reader.readWideBits count
  | flag => Answer.flag <$> Reader.readFlag
  | byte => Answer.number <$> Reader.readBits 8
  | twoBytes => Answer.number <$> Reader.readBits 16
  | skip count => (fun _ => Answer.nothing) <$> Reader.skip count
  | align => (fun _ => Answer.nothing) <$> Reader.align
  | unsigned => Answer.number <$> Reader.readUnsigned
  | signed => Answer.signed <$> Reader.readSigned
  | fail fault => Reader.fail fault
  | clear => fun reader => (.ok .nothing, reader.clearFault)

/-- What a reader shows behind an operation that ended with `result`. -/
def Reader.observe (result : Except BitFault Answer) (reader : Reader σ) : Observation where
  result := result
  position := reader.position
  isByteAligned := reader.isByteAligned
  fault := reader.fault

/-- All that is observed in a session, and the reader at its end. -/
def Session.run : Session → Reader σ → List Observation × Reader σ
  | stop, reader => ([], reader)
  | perform operation next, reader =>
      match operation.perform reader with
      | (result, rest) =>
          match (next (rest.observe result)).run rest with
          | (observations, last) => (rest.observe result :: observations, last)

/-! ## Sessions with readers in step -/

section

variable {related : σ → τ → Prop} {first : Reader σ} {second : Reader τ}

/-- Every operation ends alike. -/
theorem ReaderOperation.perform_alike [FiniteSource σ] [FiniteSource τ]
    (inStep : InStep False related) (readers : ReadersRelated related first second)
    (operation : ReaderOperation) :
    ReadAlike False related (operation.perform first) (operation.perform second) := by
  cases operation with
  | bits count => exact Reader.map_alike (Reader.readBits_alike inStep readers count) _
  | wideBits count => exact Reader.map_alike (Reader.readWideBits_alike inStep readers count) _
  | flag => exact Reader.map_alike (Reader.readFlag_alike inStep readers) _
  | byte => exact Reader.map_alike (Reader.readBits_alike inStep readers 8) _
  | twoBytes => exact Reader.map_alike (Reader.readBits_alike inStep readers 16) _
  | skip count => exact Reader.map_alike (Reader.skip_alike inStep readers count) _
  | align => exact Reader.map_alike (Reader.align_alike inStep readers) _
  | unsigned => exact Reader.map_alike (Reader.readUnsigned_alike inStep readers) _
  | signed => exact Reader.map_alike (Reader.readSigned_alike inStep readers) _
  | fail fault => exact Reader.fail_alike readers fault
  | clear => exact Or.inl ⟨rfl, Reader.clearFault_related readers⟩

/-- Related readers show the same. -/
theorem Reader.observe_related (inStep : InStep False related)
    (readers : ReadersRelated related first second) (result : Except BitFault Answer) :
    first.observe result = second.observe result := by
  simp only [observe, isByteAligned, position_related inStep readers, readers.fault_eq]

/-- Related readers show the same in every session, and stay related. -/
theorem Session.run_related [FiniteSource σ] [FiniteSource τ] (inStep : InStep False related)
    (session : Session) (readers : ReadersRelated related first second) :
    (session.run first).1 = (session.run second).1 ∧
      ReadersRelated related (session.run first).2 (session.run second).2 := by
  induction session generalizing first second with
  | stop => exact ⟨rfl, readers⟩
  | perform operation next inductionHypothesis =>
      have alike := (operation.perform_alike inStep readers).together
      rcases firstRun : operation.perform first with ⟨result, firstRest⟩
      rcases secondRun : operation.perform second with ⟨otherResult, secondRest⟩
      rw [firstRun, secondRun] at alike
      rcases alike with ⟨result_eq, rests⟩
      simp only at result_eq rests
      subst result_eq
      have seen_eq := Reader.observe_related inStep rests result
      rcases inductionHypothesis (firstRest.observe result) rests with ⟨observed, lasts⟩
      simp only [run, firstRun, secondRun, ← seen_eq, observed]
      exact ⟨trivial, lasts⟩

end

end CodedVideo
