import CodedVideo.Proofs.Bits.Session
import CodedVideo.Proofs.Decoder.InStep

/-!
# The latch of a reader

A read of fixed width that fails leaves the source where it was and latches its fault. A latched
reader holds still: whatever is asked of it, short of clearing the fault, it answers with that fault
and stays as it is. Once the fault is cleared, nothing tells the reader from the one in front of the
failed read.

Main statement: `Reader.latchedBehind_of_failed`.
-/

namespace CodedVideo

variable {σ : Type} [BitSource σ]

/-! ## Requests -/

/-- What can be asked of a reader. -/
inductive ReaderRequest where
  /-- An operation. -/
  | perform (operation : ReaderOperation)
  /-- Whether data remains in front of the trailing bits. -/
  | hasMoreData
  /-- Read the trailing bits. -/
  | trailingBits
deriving DecidableEq, Repr

/-- Answers one request. -/
def ReaderRequest.answer : ReaderRequest → ReadM σ Answer
  | perform operation => operation.perform
  | hasMoreData => Answer.flag <$> Query.hasMoreData.answer
  | trailingBits => (fun _ => Answer.nothing) <$> Query.trailingBits.answer

/-- The answers to requests, one after another, and the reader behind them. -/
def Reader.answers (reader : Reader σ) :
    List ReaderRequest → List (Except BitFault Answer) × Reader σ
  | [] => ([], reader)
  | request :: requests =>
      match request.answer reader with
      | (answer, rest) =>
          match rest.answers requests with
          | (answers, last) => (answer :: answers, last)

/-- The reader behind requests. -/
def Reader.after (reader : Reader σ) (requests : List ReaderRequest) : Reader σ :=
  (reader.answers requests).2

/-! ## Requests to a latched reader -/

/-- The answer of a reader that holds `fault` at a position. Passing over no bits at all is the only
move that does not fail. -/
def ReaderRequest.held (fault : BitFault) (position : Nat) :
    ReaderRequest → Except BitFault Answer
  | perform (.skip 0) => .ok .nothing
  | perform .align => if position % 8 = 0 then .ok .nothing else .error fault
  | hasMoreData => .ok (.flag false)
  | _ => .error fault

namespace Reader

section

variable {reader : Reader σ} {fault : BitFault}

theorem readBits_latched (latched : reader.fault = some fault) (count : Nat) :
    readBits count reader = (.error fault, reader) := by
  simp only [readBits, latched]

omit [BitSource σ] in
theorem fail_latched {α : Type} (latched : reader.fault = some fault) (other : BitFault) :
    (fail other : ReadM σ α) reader = (.error fault, reader) := by
  rcases reader with ⟨source, _⟩
  cases latched
  rfl

omit [BitSource σ] in
/-- What starts with a read that fails in place fails in place. -/
theorem bind_inPlace {α β : Type} {part : ReadM σ α}
    (failed : part reader = (.error fault, reader)) (next : α → ReadM σ β) :
    (part >>= next) reader = (.error fault, reader) := by
  rw [bind_apply, failed]
  rfl

omit [BitSource σ] in
theorem map_inPlace {α β : Type} {part : ReadM σ α}
    (failed : part reader = (.error fault, reader)) (form : α → β) :
    (form <$> part) reader = (.error fault, reader) :=
  bind_inPlace failed _

theorem readWideBits_latched (latched : reader.fault = some fault) (count : Nat) :
    readWideBits count reader = (.error fault, reader) := by
  rw [readWideBits]
  split
  · exact fail_latched latched _
  · split
    · exact readBits_latched latched count
    · exact bind_inPlace (readBits_latched latched _) _

/-- Passing over no bits reads none; any other number of them starts with a read. -/
theorem skip_latched (latched : reader.fault = some fault) (count : Nat) :
    skip count reader = if count = 0 then (.ok (), reader) else (.error fault, reader) := by
  rw [skip, bind_apply]
  by_cases isZero : count = 0
  · subst isZero
    rfl
  · rw [if_neg isZero]
    by_cases noWords : count / 32 = 0
    · have someLeft : count % 32 ≠ 0 := by omega
      have nothingSkipped : skipWords 0 reader = (.ok (), reader) := rfl
      rw [noWords, nothingSkipped]
      simp only [resume, if_pos someLeft]
      exact bind_inPlace (readBits_latched latched _) _
    · obtain ⟨words, words_eq⟩ := Nat.exists_eq_succ_of_ne_zero noWords
      have stopped : skipWords (words + 1) reader = (.error fault, reader) :=
        bind_inPlace (readBits_latched latched 32) _
      rw [words_eq, stopped]
      rfl

theorem align_latched (latched : reader.fault = some fault) :
    align reader = if reader.position % 8 = 0 then (.ok (), reader) else (.error fault, reader) := by
  have atBoundary_iff : Bits.toBoundary reader.position = 0 ↔ reader.position % 8 = 0 := by
    rw [Bits.toBoundary]
    omega
  simp only [align, skip_latched latched, atBoundary_iff]

theorem readCodeNumber_latched (latched : reader.fault = some fault) :
    readCodeNumber reader = (.error fault, reader) := by
  rw [readCodeNumber_apply]
  exact bind_inPlace (bind_inPlace (readBits_latched latched 1) _) _

theorem hasMoreData_latched (latched : reader.fault = some fault) : reader.hasMoreData = false := by
  rw [hasMoreData, latched]
  rfl

theorem readTrailingBits_latched (latched : reader.fault = some fault) :
    readTrailingBits reader = (.error fault, reader) := by
  rw [readTrailingBits_apply]
  exact bind_inPlace (readBits_latched latched 1) _

/-- A latched reader answers a request with its fault and stays as it is. -/
theorem answer_latched (latched : reader.fault = some fault) {request : ReaderRequest}
    (notClear : request ≠ .perform .clear) :
    request.answer reader = (request.held fault reader.position, reader) := by
  cases request with
  | hasMoreData =>
      have answered : Query.hasMoreData.answer reader = (.ok false, reader) := by
        simp only [Query.answer, hasMoreData_latched latched]
      change (Query.hasMoreData.answer >>= _) reader = _
      rw [bind_apply, answered]
      rfl
  | trailingBits => exact map_inPlace (readTrailingBits_latched latched) _
  | perform operation =>
      cases operation with
      | bits count => exact map_inPlace (readBits_latched latched count) _
      | wideBits count => exact map_inPlace (readWideBits_latched latched count) _
      | flag => exact map_inPlace (bind_inPlace (readBits_latched latched 1) _) _
      | byte => exact map_inPlace (readBits_latched latched 8) _
      | twoBytes => exact map_inPlace (readBits_latched latched 16) _
      | skip count =>
          change (skip count >>= _) reader = _
          rw [bind_apply, skip_latched latched]
          cases count with
          | zero => rfl
          | succ count => rfl
      | align =>
          change (align >>= _) reader = _
          rw [bind_apply, align_latched latched, ReaderRequest.held]
          split
          · rfl
          · rfl
      | unsigned => exact map_inPlace (bind_inPlace (readCodeNumber_latched latched) _) _
      | signed => exact map_inPlace (bind_inPlace (readCodeNumber_latched latched) _) _
      | fail other => exact fail_latched latched other
      | clear => exact absurd rfl notClear

/-- A latched reader answers every sequence of requests with its fault and stays as it is. -/
theorem answers_latched (latched : reader.fault = some fault) {requests : List ReaderRequest}
    (notCleared : .perform .clear ∉ requests) :
    reader.answers requests = (requests.map (·.held fault reader.position), reader) := by
  induction requests with
  | nil => rfl
  | cons request requests inductionHypothesis =>
      rw [List.mem_cons, not_or] at notCleared
      rw [answers, answer_latched latched (Ne.symm notCleared.1)]
      simp only [inductionHypothesis notCleared.2, List.map_cons]

end

/-! ## Reads that fail -/

/-- A read of fixed width that fails changes nothing but the latch. -/
theorem readBits_of_failed {reader : Reader σ} {count : Nat} {fault : BitFault}
    (failed : (readBits count reader).1 = .error fault) :
    readBits count reader = (.error fault, { reader with fault := some fault }) := by
  cases latched : reader.fault with
  | some earlier =>
      rw [readBits_latched latched] at failed ⊢
      cases failed
      rw [← latched]
  | none =>
      simp only [readBits, latched] at failed ⊢
      split at failed
      · next tooWide =>
        simp only [fail, latched] at failed ⊢
        cases failed
        rw [if_pos tooWide]
      · next fits =>
        cases taken : BitSource.take count reader.source with
        | none =>
            simp only [taken, fail, latched] at failed ⊢
            cases failed
            rw [if_neg fits]
        | some step =>
            simp only [taken] at failed
            cases failed

omit [BitSource σ] in
/-- A value that is made of another fails where that one does. -/
theorem map_of_failed {α β : Type} {part : ReadM σ α} {form : α → β} {reader stopped : Reader σ}
    {fault : BitFault} (failed : ((form <$> part) reader).1 = .error fault)
    (partStops : (part reader).1 = .error fault → part reader = (.error fault, stopped)) :
    (form <$> part) reader = (.error fault, stopped) := by
  change ((part >>= fun value => pure (form value)) reader).1 = _ at failed
  change (part >>= fun value => pure (form value)) reader = _
  rw [bind_apply] at failed ⊢
  rcases part_eq : part reader with ⟨inner | value, rest⟩
  · rw [part_eq] at failed
    cases failed
    rw [← part_eq, partStops (congrArg Prod.fst part_eq)]
    rfl
  · rw [part_eq] at failed
    cases failed

end Reader

/-- The operation reads a fixed number of bits, at most 32. -/
def ReaderOperation.IsFixedRead : ReaderOperation → Prop
  | bits _ | flag | byte | twoBytes => True
  | _ => False

theorem ReaderOperation.perform_of_failed {reader : Reader σ} {operation : ReaderOperation}
    (isFixed : operation.IsFixedRead) {fault : BitFault}
    (failed : (operation.perform reader).1 = .error fault) :
    operation.perform reader = (.error fault, { reader with fault := some fault }) := by
  cases operation with
  | bits count => exact Reader.map_of_failed failed Reader.readBits_of_failed
  | flag =>
      refine Reader.map_of_failed failed fun flagFailed => ?_
      exact Reader.map_of_failed flagFailed Reader.readBits_of_failed
  | byte => exact Reader.map_of_failed failed Reader.readBits_of_failed
  | twoBytes => exact Reader.map_of_failed failed Reader.readBits_of_failed
  | _ => exact isFixed.elim

/-! ## Behind a failed read -/

/-- `stopped` is `reader` with `fault` latched, and the latch holds until it is cleared. -/
structure Reader.LatchedBehind (reader : Reader σ) (fault : BitFault) (stopped : Reader σ) :
    Prop where
  /-- The cursor is where it was. -/
  source_eq : stopped.source = reader.source
  fault_eq : stopped.fault = some fault
  /-- Short of clearing the fault, every request is answered with it and moves nothing. -/
  held : ∀ requests, .perform .clear ∉ requests →
    stopped.answers requests = (requests.map (·.held fault reader.position), stopped)
  /-- Once the fault is cleared, requests are answered as if the read had not been attempted. -/
  cleared : ∀ requests later, .perform .clear ∉ requests →
    (stopped.after requests).clearFault.answers later = reader.clearFault.answers later

/-- A read of fixed width that fails, on whatever source and in whatever state, leaves the cursor
where it was and latches its fault; the latch holds through every sequence of requests, and behind
it the reader goes on from where the read was attempted. -/
theorem Reader.latchedBehind_of_failed (reader : Reader σ) {operation : ReaderOperation}
    (isFixed : operation.IsFixedRead) {fault : BitFault}
    (failed : (operation.perform reader).1 = .error fault) :
    reader.LatchedBehind fault (operation.perform reader).2 := by
  rw [ReaderOperation.perform_of_failed isFixed failed]
  have holds {requests : List ReaderRequest} (notCleared : .perform .clear ∉ requests) :
      ({ reader with fault := some fault } : Reader σ).answers requests =
        (requests.map (·.held fault reader.position), { reader with fault := some fault }) :=
    answers_latched rfl notCleared
  constructor
  · rfl
  · rfl
  · exact fun _ notCleared => holds notCleared
  · intro requests later notCleared
    rw [after, holds notCleared]
    rfl

/-- Half a byte into a unit of three payload bytes, a read of 24 bits loads all of them, passes over
the inserted byte and fails. -/
theorem Reader.latchedBehind_of_failed_refill :
    let reader := (EscapedReader.ofUnit [0x00, 0x00, 0x03, 0x01]).after [.perform (.bits 4)]
    (ReaderOperation.bits 24).IsFixedRead ∧
      ((ReaderOperation.bits 24).perform reader).1 = .error .unexpectedEnd ∧
        reader.LatchedBehind .unexpectedEnd ((ReaderOperation.bits 24).perform reader).2 := by
  intro reader
  have isFixed : (ReaderOperation.bits 24).IsFixedRead := trivial
  exact ⟨isFixed, rfl, Reader.latchedBehind_of_failed reader isFixed rfl⟩

end CodedVideo
