import CodedVideo.Proofs.NalUnit.WrittenFields
import CodedVideo.Proofs.Standing

/-!
# The end of the payload

In an escaped unit two questions are asked about the trailing bits, by loops of their own: whether
data remains in front of them, which moves nothing, and whether they are all that remains, which
reads them. Both are decided by the same language of remaining bits, in whatever state the reader
is.

Main statement: `EscapedReader.endsPayload_run`.
-/

namespace CodedVideo

open PlainReader (before)

/-- Trailing bits: a one and only zeros behind it. -/
def Bits.AreTrailing (bits : List Bool) : Prop :=
  ∃ zeros, bits = true :: List.replicate zeros false

theorem Bits.areTrailing_cons_iff {bit : Bool} {bits : List Bool} :
    AreTrailing (bit :: bits) ↔ bit = true ∧ true ∉ bits := by
  constructor
  · rintro ⟨zeros, parts⟩
    rw [List.cons_eq_cons] at parts
    rcases parts with ⟨rfl, rfl⟩
    exact ⟨rfl, fun isThere => Bool.noConfusion (List.eq_of_mem_replicate isThere)⟩
  · rintro ⟨rfl, noOne⟩
    refine ⟨bits.length, congrArg (true :: ·) (List.eq_replicate_of_mem fun bit isBit => ?_)⟩
    exact Bool.eq_false_iff.mpr fun isOne => noOne (isOne ▸ isBit)

namespace Reader

/-! ## Plain bits -/

/-- No data remains in front of nothing and in front of trailing bits. -/
theorem hasMoreData_before_eq_false_iff (position : Nat) (bits : List Bool) :
    (before position bits).hasMoreData = false ↔ bits = [] ∨ Bits.AreTrailing bits := by
  cases bits with
  | nil => exact ⟨fun _ => Or.inl rfl, fun _ => rfl⟩
  | cons bit bits =>
      simp only [reduceCtorEq, false_or, Bits.areTrailing_cons_iff]
      cases bit with
      | false => exact ⟨fun noMore => Bool.noConfusion noMore, fun ends => Bool.noConfusion ends.1⟩
      | true =>
          have hasOne := hasOneWithin_before (position + 1) (Nat.le_refl bits.length)
          rw [← hasOne]
          simp only [true_and, Bool.not_eq_true]
          exact Iff.rfl

/-- Only a reader without a fault reads trailing bits, and it reads nothing else as such. -/
theorem readTrailingBits_eq_ok_iff (reader : PlainReader) :
    (readTrailingBits reader).1 = .ok () ↔
      reader.fault = none ∧ Bits.AreTrailing reader.source.unread := by
  constructor
  · intro ended
    exact unread_of_readTrailingBits (Prod.ext ended rfl)
  · rcases reader with ⟨⟨position, unread⟩, fault⟩
    rintro ⟨rfl, zeros, rfl⟩
    exact congrArg Prod.fst (readTrailingBits_before position zeros)

end Reader

/-! ## Escaped units -/

namespace EscapedReader

/-- The reader has read the whole unit. -/
structure IsBehind (unit : List UInt8) (reader : EscapedReader) : Prop where
  atEnd : reader.atEnd = true
  fault_eq : reader.fault = none
  position_eq : reader.position = 8 * (Emulation.remove unit).length
  bytesRead_eq : reader.bytesRead = unit.length
  noBit : (Reader.readBits 1 reader).1 = .error .unexpectedEnd

/-- What the trailing bits mean to a reader of a unit that stands in front of `remaining`. -/
structure EndsPayload (unit : List UInt8) (remaining : List Bool) (reader : EscapedReader) :
    Prop where
  /-- The question whether data remains is always answered and changes nothing. -/
  lookAhead_eq : Query.hasMoreData.answer reader = (.ok reader.hasMoreData, reader)
  hasMoreData_eq_false_iff : reader.hasMoreData = false ↔
    reader.fault ≠ none ∨ remaining = [] ∨ Bits.AreTrailing remaining
  readTrailingBits_eq_ok_iff : (Reader.readTrailingBits reader).1 = .ok () ↔
    reader.fault = none ∧ Bits.AreTrailing remaining
  isBehind : (Reader.readTrailingBits reader).1 = .ok () →
    IsBehind unit (Reader.readTrailingBits reader).2
  /-- In front of a bit either data remains or the trailing bits can be read, and never both. -/
  exclusive : reader.fault = none → remaining ≠ [] →
    (reader.hasMoreData = true ↔ (Reader.readTrailingBits reader).1 ≠ .ok ())

variable {unit : List UInt8}

/-- Behind the trailing bits all bytes of the unit are read, those that were inserted included. -/
theorem PayloadRelated.isBehind {reader : EscapedReader} {position zeros : Nat}
    (readers : PayloadRelated unit reader (before position (true :: List.replicate zeros false))) :
    IsBehind unit (Reader.readTrailingBits reader).2 := by
  have inStep := EscapedSource.inStep_payload unit
  obtain ⟨last, trailing_eq, lasts⟩ := PayloadRelated.read
    (Reader.readTrailingBits_alike inStep readers)
    (Reader.readTrailingBits_before position zeros)
  rw [trailing_eq]
  rcases lasts.whole_unit with ⟨atEnd, bytes_eq, _⟩
  exact {
    atEnd
    fault_eq := lasts.fault_eq
    position_eq := (countsIn lasts.sources.1).atEnd_iff.mp atEnd
    bytesRead_eq := bytes_eq
    noBit := (Reader.readBits_alike inStep lasts 1).together.1 }

theorem endsPayload {reader : EscapedReader} (valid : reader.source.ValidIn unit) :
    reader.EndsPayload unit ((Bits.ofBytes (Emulation.remove unit)).drop reader.position) := by
  have inStep := EscapedSource.inStep_payload unit
  have readers := payloadRelated_inside valid
  have noMore_iff : reader.hasMoreData = false ↔ reader.fault ≠ none ∨
      (Bits.ofBytes (Emulation.remove unit)).drop reader.position = [] ∨
        Bits.AreTrailing ((Bits.ofBytes (Emulation.remove unit)).drop reader.position) := by
    rw [Reader.hasMoreData_related inStep readers]
    cases reader.fault with
    | none =>
        rw [← Reader.hasMoreData_before_eq_false_iff reader.position]
        simp only [ne_eq, not_true_eq_false, false_or]
        exact Iff.rfl
    | some fault => exact ⟨fun _ => Or.inl (Option.some_ne_none fault), fun _ => rfl⟩
  have trailing_iff : (Reader.readTrailingBits reader).1 = .ok () ↔ reader.fault = none ∧
      Bits.AreTrailing ((Bits.ofBytes (Emulation.remove unit)).drop reader.position) := by
    rw [(Reader.readTrailingBits_alike inStep readers).together.1]
    exact Reader.readTrailingBits_eq_ok_iff _
  constructor
  · rfl
  · exact noMore_iff
  · exact trailing_iff
  · intro ended
    obtain ⟨noFault, zeros, remaining_eq⟩ := trailing_iff.mp ended
    rw [PlainReader.inside, noFault, remaining_eq] at readers
    exact readers.isBehind
  · intro noFault isThere
    rw [← Bool.not_eq_false, noMore_iff]
    refine not_congr (Iff.trans ?_ trailing_iff.symm)
    simp only [noFault, ne_eq, not_true_eq_false, false_or, isThere, true_and]

/-- In every state of a reader of an escaped unit, what stands between its position and the end of
the payload decides both whether data remains and whether the trailing bits can be read: trailing
bits and nothing else are read as such, up to the end of the unit, and in front of them, in front of
nothing and behind a fault no data remains. -/
theorem endsPayload_run (unit : List UInt8) (actions : List ReaderAction) :
    let reader := (ReaderHistory.run unit actions).reader
    reader.EndsPayload unit ((Bits.ofBytes (Emulation.remove unit)).drop reader.position) ∧
      ReaderHistory.run unit (actions ++ [.lookAhead]) = ReaderHistory.run unit actions := by
  refine ⟨endsPayload (ReaderHistory.validIn_run unit actions).reader, ?_⟩
  rw [ReaderHistory.run, List.foldl_append]
  rfl

/-- One bit into a unit, the trailing bits reach over an inserted byte up to the end. -/
theorem endsPayload_run_inserted :
    let reader := (ReaderHistory.run [0xc0, 0x00, 0x00, 0x03, 0x00] [.perform .flag]).reader
    reader.fault = none ∧ reader.hasMoreData = false ∧
      (Reader.readTrailingBits reader).1 = .ok () ∧
        IsBehind [0xc0, 0x00, 0x00, 0x03, 0x00] (Reader.readTrailingBits reader).2 := by
  intro reader
  have ends := (endsPayload_run [0xc0, 0x00, 0x00, 0x03, 0x00] [.perform .flag]).1
  have areTrailing : Bits.AreTrailing
      ((Bits.ofBytes (Emulation.remove [0xc0, 0x00, 0x00, 0x03, 0x00])).drop reader.position) :=
    ⟨30, rfl⟩
  have noMore := ends.hasMoreData_eq_false_iff.mpr (Or.inr (Or.inr areTrailing))
  have ended := ends.readTrailingBits_eq_ok_iff.mpr ⟨rfl, areTrailing⟩
  exact ⟨rfl, noMore, ended, ends.isBehind ended⟩

end EscapedReader

end CodedVideo
