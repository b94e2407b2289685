import CodedVideo.Proofs.Bits.Latch
import CodedVideo.Proofs.Bits.PlainReads
import CodedVideo.Proofs.NalUnit.Payload
import CodedVideo.Proofs.NalUnit.ReaderCounts

/-!
# Where a reader stands

A reader stands, whatever was done with it, at its position in the bits that its source hands out:
those of the bytes, or those of the payload of an escaped unit. The bits behind the position and the
latched fault decide all that is observed from there on, so what is known of plain bits is known of a
reader of either kind.

Main statements: `PlainReader.ReachedFrom.standsIn` and `EscapedReader.standsIn_run`.
-/

namespace CodedVideo

variable {σ τ : Type} [BitSource σ] [BitSource τ]

/-- The reader of plain bits at a position in them. -/
def PlainReader.inside (decoded : List Bool) (position : Nat) (fault : Option BitFault) :
    PlainReader where
  source := { position, unread := decoded.drop position }
  fault

/-- The reader stands in the bits `decoded`: nothing that is read from it tells it from the reader
of plain bits at its position in them, with its fault. -/
structure Reader.StandsIn (decoded : List Bool) (reader : Reader σ) : Prop where
  position_le : reader.position ≤ decoded.length
  exists_inStep : ∃ related : σ → PlainSource → Prop, InStep False related ∧
    ReadersRelated related reader (PlainReader.inside decoded reader.position reader.fault)

/-- What ends alike on readers in step ends on a reader as it does on the bits it stands in. -/
theorem Reader.StandsIn.ends {ε α : Type} {isEnd : ε → Prop} {decoded : List Bool}
    {reader : Reader σ} (stands : reader.StandsIn decoded)
    {run : Reader σ → Except ε α × Reader σ} {plainRun : PlainReader → Except ε α × PlainReader}
    (alike : ∀ {related : σ → PlainSource → Prop}, InStep False related →
      ∀ {first : Reader σ} {second : PlainReader}, ReadersRelated related first second →
        EndAlike False isEnd related (run first) (plainRun second)) :
    let ended := plainRun (PlainReader.inside decoded reader.position reader.fault)
    (run reader).1 = ended.1 ∧ (run reader).2.position = ended.2.position ∧
      (run reader).2.fault = ended.2.fault := by
  obtain ⟨related, inStep, readers⟩ := stands.exists_inStep
  rcases (alike inStep readers).together with ⟨result_eq, lasts⟩
  exact ⟨result_eq, Reader.position_related inStep lasts, lasts.fault_eq⟩

/-- A run ends in one way, with one result and behind one number of bits. If one of the ways that
are said is there, and each of them is the one that is taken, then none is left out. -/
theorem taken_iff_said {ρ : Type} {taken said : ρ → Nat → Prop}
    (unique : ∀ {result other count otherCount}, taken result count → taken other otherCount →
      result = other ∧ count = otherCount)
    (sound : ∀ {result count}, said result count → taken result count)
    (isThere : ∃ result count, said result count) (result : ρ) (count : Nat) :
    taken result count ↔ said result count := by
  constructor
  · intro isTaken
    obtain ⟨other, otherCount, isSaid⟩ := isThere
    obtain ⟨rfl, rfl⟩ := unique (sound isSaid) isTaken
    exact isSaid
  · exact sound

/-! ## Requests to readers in step -/

section

variable [FiniteSource σ] [FiniteSource τ] {related : σ → τ → Prop} {first : Reader σ}
  {second : Reader τ} (inStep : InStep False related)

include inStep

theorem ReaderRequest.answer_alike (readers : ReadersRelated related first second)
    (request : ReaderRequest) :
    ReadAlike False related (request.answer first) (request.answer second) := by
  have answered {α : Type} (query : Query α) :
      ReadAlike False related (query.answer first) (query.answer second) :=
    query.answer_alike inStep readers fun impossible => impossible.elim
  cases request with
  | perform operation => exact operation.perform_alike inStep readers
  | hasMoreData => exact Reader.map_alike (answered .hasMoreData) _
  | trailingBits => exact Reader.map_alike (answered .trailingBits) _

end

/-! ## Plain bytes -/

namespace PlainReader

/-- The bits behind the position are those that are not handed out yet. -/
structure SourceIn (decoded : List Bool) (source : PlainSource) : Prop where
  position_le : source.position ≤ decoded.length
  unread_eq : source.unread = decoded.drop source.position

theorem SourceIn.next {decoded : List Bool} {source rest : PlainSource} {bit : Bool}
    (isIn : SourceIn decoded source) (next_eq : BitSource.next source = some (bit, rest)) :
    SourceIn decoded rest := by
  rcases source with ⟨position, _ | ⟨first, unread⟩⟩
  · cases next_eq
  · cases next_eq
    rcases isIn with ⟨_, unread_eq⟩
    constructor
    · apply Nat.lt_of_not_le
      intro isBehind
      rw [List.drop_of_length_le isBehind] at unread_eq
      cases unread_eq
    · change unread = decoded.drop (position + 1)
      rw [← List.drop_drop, ← unread_eq]
      rfl

theorem SourceIn.drop {decoded : List Bool} {source : PlainSource} (isIn : SourceIn decoded source)
    (count : Nat) : SourceIn decoded (source.drop count) := by
  rcases source with ⟨position, unread⟩
  rcases isIn with ⟨position_le, unread_eq⟩
  simp only at position_le unread_eq
  subst unread_eq
  constructor
  · rw [PlainSource.drop, List.length_drop]
    simp only
    omega
  · simp only [PlainSource.drop, List.drop_drop, List.length_drop]
    by_cases enough : count ≤ decoded.length - position
    · rw [Nat.min_eq_left enough]
    · rw [List.drop_of_length_le (by omega), List.drop_of_length_le (by omega)]

/-- The readers that lie behind the one in front of the first bit of `bytes`. -/
inductive ReachedFrom (bytes : List UInt8) : PlainReader → Prop where
  | start : ReachedFrom bytes (ofBytes bytes)
  | request {reader : PlainReader} (reached : ReachedFrom bytes reader) (request : ReaderRequest) :
      ReachedFrom bytes (request.answer reader).2
  | boundary {reader : PlainReader} (reached : ReachedFrom bytes reader) :
      ReachedFrom bytes reader.moveToBoundary

theorem ReachedFrom.sourceIn {bytes : List UInt8} {reader : PlainReader}
    (reached : ReachedFrom bytes reader) : SourceIn (Bits.ofBytes bytes) reader.source := by
  induction reached with
  | start => exact ⟨Nat.zero_le _, rfl⟩
  | @request reader _ request isIn =>
      have inStep := InStep.of_preserved fun
        {source rest : PlainSource} {bit : Bool} (next_eq : BitSource.next source = some (bit, rest))
        (isIn : SourceIn (Bits.ofBytes bytes) source) => isIn.next next_eq
      have readers : ReadersRelated
          (fun first second => first = second ∧ SourceIn (Bits.ofBytes bytes) first)
          reader reader := ⟨⟨rfl, isIn⟩, rfl⟩
      exact (request.answer_alike inStep readers).together.2.sources.2
  | boundary _ isIn => exact isIn.drop _

/-- A reader of bytes never leaves their bits. -/
theorem ReachedFrom.standsIn {bytes : List UInt8} {reader : PlainReader}
    (reached : ReachedFrom bytes reader) : reader.StandsIn (Bits.ofBytes bytes) := by
  have isIn := reached.sourceIn
  have inStep := InStep.of_preserved fun
    {source rest : PlainSource} {bit : Bool} (_ : BitSource.next source = some (bit, rest))
    (holds : True) => holds
  refine ⟨isIn.position_le, _, inStep, ⟨?_, trivial⟩, rfl⟩
  exact congrArg (PlainSource.mk _) isIn.unread_eq

end PlainReader

/-! ## Escaped units -/

/-- The bits of the payload behind the position are those that are not handed out yet. -/
theorem EscapedSource.ValidIn.unread_eq {unit : List UInt8} {source : EscapedSource}
    (valid : source.ValidIn unit) :
    source.unread = (Bits.ofBytes (Emulation.remove unit)).drop (BitSource.position source) := by
  have handedOut := valid.position_add_pending
  obtain ⟨passed, passed_eq⟩ := valid.pending_suffix
  have passedLength : passed.length = BitSource.position source := by
    rw [← Bits.length_ofBytes, ← passed_eq, List.length_append] at handedOut
    exact (Nat.add_right_cancel handedOut).symm
  have whole_eq : source.front ++ source.rest = unit := by
    rw [front, valid.rest_eq, List.take_append_drop, valid.unit_eq]
  rw [← whole_eq, Emulation.remove_append, ← valid.zeros_eq, Bits.ofBytes_append, ← passed_eq,
    List.append_assoc, ← passedLength, List.drop_left]
  rfl

namespace EscapedReader

/-- A reader of a unit and the reader of the payload at its position are at the same bit. -/
theorem payloadRelated_inside {unit : List UInt8} {reader : EscapedReader}
    (valid : reader.source.ValidIn unit) :
    PayloadRelated unit reader
      (PlainReader.inside (Bits.ofBytes (Emulation.remove unit)) reader.position reader.fault) := by
  refine ⟨⟨valid, ?_⟩, rfl⟩
  rw [EscapedSource.payload, valid.unread_eq]
  rfl

theorem standsIn {unit : List UInt8} {reader : EscapedReader}
    (valid : reader.source.ValidIn unit) :
    reader.StandsIn (Bits.ofBytes (Emulation.remove unit)) := by
  refine ⟨?_, _, EscapedSource.inStep_payload unit, payloadRelated_inside valid⟩
  rw [Bits.length_ofBytes]
  exact valid.position_le

/-- Actions lead a reader of an escaped unit from one position in the payload to another. -/
theorem standsIn_run (unit : List UInt8) (actions : List ReaderAction) :
    (ReaderHistory.run unit actions).reader.StandsIn (Bits.ofBytes (Emulation.remove unit)) :=
  standsIn (ReaderHistory.validIn_run unit actions).reader

end EscapedReader

end CodedVideo
