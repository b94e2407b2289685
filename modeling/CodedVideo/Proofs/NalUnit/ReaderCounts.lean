import CodedVideo.Proofs.Bits.Session
import CodedVideo.Proofs.Decoder.InStep
import CodedVideo.Proofs.NalUnit.EscapedSource

/-!
# The counts that a reader of an escaped unit shows

A reader shows how many stored bytes and how many bits of the payload it has read, how many inserted
bytes it has passed over and how many bits may be left. At any time these are the counts of one and
the same cut of the unit: what the user of a reader may do to it, failed reads and the return to a
reader kept from earlier included, only moves the cut.

Main statement: the counts agree with the unit behind every sequence of actions.
-/

namespace CodedVideo

namespace EscapedSource

variable {unit : List UInt8} {source : EscapedSource}

/-! ## The cut at which a source stands -/

/-- The bits of the payload are those handed out and those unread. -/
theorem ValidIn.position_add_unread (valid : source.ValidIn unit) :
    BitSource.position source + source.unread.length = 8 * (Emulation.remove unit).length := by
  have handedOut := valid.position_add_pending
  have parts := Emulation.remove_append source.front source.rest
  have whole_eq : source.front ++ source.rest = unit := by
    rw [front, valid.rest_eq, List.take_append_drop, valid.unit_eq]
  rw [whole_eq, ← valid.zeros_eq] at parts
  rw [unread, List.length_append, Bits.length_ofBytes, parts, List.length_append]
  omega

/-- No position lies behind the payload. -/
theorem ValidIn.position_le (valid : source.ValidIn unit) :
    BitSource.position source ≤ 8 * (Emulation.remove unit).length :=
  valid.position_add_unread ▸ Nat.le_add_right _ _

/-- As many bits can be taken as are unread. -/
theorem Valid.isSome_take_iff (valid : source.Valid) (count : Nat) :
    (BitSource.take count source).isSome = true ↔ count ≤ source.unread.length := by
  induction count generalizing source with
  | zero => simp [BitSource.take]
  | succ count inductionHypothesis =>
      rw [BitSource.take]
      cases next_eq : BitSource.next source with
      | none =>
          rw [valid.unread_eq_nil_iff.mpr next_eq]
          simp
      | some step =>
          obtain ⟨bit, after⟩ := step
          have others := inductionHypothesis (valid.next next_eq)
          rw [valid.unread_next next_eq, List.length_cons, Nat.succ_le_succ_iff, ← others]
          simp only
          cases BitSource.take count after <;> rfl

end EscapedSource

/-! ## Counts -/

/-- The counts of a reader are those of a cut of the unit. -/
structure EscapedReader.CountsIn (unit : List UInt8) (reader : EscapedReader) : Prop where
  bytesRead_le : reader.bytesRead ≤ unit.length
  escapesRemoved_eq : reader.escapesRemoved = Emulation.count (unit.take reader.bytesRead)
  bytesRead_sub_escapesRemoved :
    reader.bytesRead - reader.escapesRemoved = (reader.position + 7) / 8
  bitsReadOfByte_eq : reader.bitsReadOfByte = reader.position % 8
  position_le : reader.position ≤ 8 * (Emulation.remove unit).length
  atEnd_iff : reader.atEnd = true ↔ reader.position = 8 * (Emulation.remove unit).length
  bitsLeft_eq : reader.bitsLeft =
    (8 * (Emulation.remove unit).length - reader.position) +
      8 * (Emulation.count unit - reader.escapesRemoved)
  /-- As many bits can be read as stand behind the position. -/
  isSome_take_iff : ∀ count, (BitSource.take count reader.source).isSome = true ↔
    count ≤ 8 * (Emulation.remove unit).length - reader.position
  /-- No difference in a count falls below zero. -/
  differences : reader.escapesRemoved ≤ reader.bytesRead ∧
    reader.escapesRemoved ≤ Emulation.count unit ∧
      reader.source.pending.length ≤ (reader.bytesRead - reader.escapesRemoved) * 8 ∧
        reader.source.pending.length ≤ 8

/-- Between two steps the counts of a reader are those of the cut at which its source stands. -/
theorem EscapedReader.countsIn {unit : List UInt8} {reader : EscapedReader}
    (valid : reader.source.ValidIn unit) : reader.CountsIn unit := by
  have front_eq : reader.source.front = unit.take reader.bytesRead := by
    rw [EscapedSource.front, valid.unit_eq]
    rfl
  have handedOut := valid.position_add_pending
  have whole := valid.position_add_unread
  have decoded := valid.loaded_sub_escapes
  have short := valid.pending_short
  have frontParts := Emulation.length_remove_add_count reader.source.front
  have unitParts := Emulation.length_remove_add_count unit
  have loaded_le := valid.loaded_le
  have rest_length := congrArg List.length valid.rest_eq
  have removed_le := Emulation.length_removeAfter_le reader.source.zeros reader.source.rest
  have unread_length : reader.source.unread.length = reader.source.pending.length +
      8 * (Emulation.removeAfter reader.source.zeros reader.source.rest).length := by
    rw [EscapedSource.unread, List.length_append, Bits.length_ofBytes]
  rw [valid.length_front, ← valid.escapes_eq] at frontParts
  rw [List.length_drop, valid.unit_eq] at rest_length
  rw [valid.unit_eq] at loaded_le
  constructor
  · exact loaded_le
  · rw [← front_eq]
    exact valid.escapes_eq
  · simp only [bytesRead, escapesRemoved, Reader.position]
    omega
  · simp only [bitsReadOfByte, Reader.position, List.isEmpty_iff_length_eq_zero]
    split <;> omega
  · exact valid.position_le
  · rw [Reader.atEnd, BitSource.atEnd, Option.isNone_iff_eq_none, ← valid.unread_eq_nil_iff,
      ← List.length_eq_zero_iff]
    simp only [Reader.position]
    omega
  · simp only [Reader.bitsLeft, BitSource.bitsLeft, escapesRemoved, Reader.position]
    omega
  · intro count
    rw [valid.isSome_take_iff]
    simp only [Reader.position]
    omega
  · simp only [bytesRead, escapesRemoved]
    omega

/-! ## Actions -/

/-- What the user of a reader does to it. -/
inductive ReaderAction where
  /-- An operation of the reader. -/
  | perform (operation : ReaderOperation)
  /-- The question whether data remains in front of the trailing bits. -/
  | lookAhead
  /-- Reading the trailing bits. -/
  | trailingBits
  /-- Keeping a copy of the reader. -/
  | save
  /-- Returning to a copy that was kept, its fault included. -/
  | restore (index : Nat)
deriving DecidableEq, Repr

/-- A reader and the copies of it that were kept. -/
structure ReaderHistory where
  reader : EscapedReader
  saved : List EscapedReader := []

namespace ReaderHistory

/-- The history behind an action. Where there is no copy to return to, the reader stays. -/
def act (history : ReaderHistory) : ReaderAction → ReaderHistory
  | .perform operation => { history with reader := (operation.perform history.reader).2 }
  | .lookAhead => { history with reader := (Query.hasMoreData.answer history.reader).2 }
  | .trailingBits => { history with reader := (Query.trailingBits.answer history.reader).2 }
  | .save => { history with saved := history.saved ++ [history.reader] }
  | .restore index => { history with reader := history.saved.getD index history.reader }

/-- The history of a reader that starts in front of a unit. -/
def run (unit : List UInt8) (actions : List ReaderAction) : ReaderHistory :=
  actions.foldl act { reader := EscapedReader.ofUnit unit }

/-- The reader and all its copies stand in the unit. -/
structure ValidIn (unit : List UInt8) (history : ReaderHistory) : Prop where
  reader : history.reader.source.ValidIn unit
  saved : ∀ copy ∈ history.saved, copy.source.ValidIn unit

/-- No action leaves the unit. -/
theorem ValidIn.act {unit : List UInt8} {history : ReaderHistory} (valid : history.ValidIn unit)
    (action : ReaderAction) : (history.act action).ValidIn unit := by
  have inStep := InStep.of_preserved fun
    {source rest : EscapedSource} {bit : Bool} (next_eq : BitSource.next source = some (bit, rest))
    (starts : source.ValidIn unit) => starts.next next_eq
  have readers : ReadersRelated (fun first second => first = second ∧ first.ValidIn unit)
      history.reader history.reader := ⟨⟨rfl, valid.reader⟩, rfl⟩
  have answered {α : Type} (query : Query α) :
      (query.answer history.reader).2.source.ValidIn unit :=
    (query.answer_alike inStep readers fun impossible => impossible.elim).together.2.sources.2
  cases action with
  | perform operation =>
      have alike := (operation.perform_alike inStep readers).together
      exact ⟨alike.2.sources.2, valid.saved⟩
  | lookAhead => exact ⟨answered .hasMoreData, valid.saved⟩
  | trailingBits => exact ⟨answered .trailingBits, valid.saved⟩
  | save =>
      refine ⟨valid.reader, ?_⟩
      intro copy isSaved
      rcases List.mem_append.mp isSaved with isOlder | isNew
      · exact valid.saved copy isOlder
      · rw [List.mem_singleton.mp isNew]
        exact valid.reader
  | restore index =>
      refine ⟨?_, valid.saved⟩
      simp only [ReaderHistory.act]
      rw [List.getD_eq_getElem?_getD]
      cases saved_eq : history.saved[index]? with
      | none => exact valid.reader
      | some copy => exact valid.saved copy (List.mem_of_getElem? saved_eq)

/-- No sequence of actions leaves the unit. -/
theorem validIn_run (unit : List UInt8) (actions : List ReaderAction) :
    (run unit actions).ValidIn unit := by
  have starts : ({ reader := EscapedReader.ofUnit unit } : ReaderHistory).ValidIn unit :=
    ⟨EscapedSource.validIn_ofUnit unit, by simp⟩
  rw [run]
  generalize ({ reader := EscapedReader.ofUnit unit } : ReaderHistory) = history at starts
  induction actions generalizing history with
  | nil => exact starts
  | cons action actions inductionHypothesis =>
      exact inductionHypothesis (history.act action) (starts.act action)

end ReaderHistory

/-- Behind every sequence of actions the counts of the reader are those of a cut of the unit. -/
theorem EscapedReader.countsIn_run (unit : List UInt8) (actions : List ReaderAction) :
    (ReaderHistory.run unit actions).reader.CountsIn unit :=
  countsIn (ReaderHistory.validIn_run unit actions).reader

end CodedVideo
