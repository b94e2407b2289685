import CodedVideo.Proofs.Bits.Buffer
import CodedVideo.Proofs.NalUnit.WordReader

/-!
# Writing escaped units in words

A store puts a whole block behind the bits that wait and then emits the bytes that are full, where a
writer takes one bit after another and emits a byte with its eighth bit. Both have then emitted the
same bytes and wait with the same bits.

Main statements: `EscapedStore.inWords_ofWriter` and `EscapedWriter.session_inWords`.
-/

namespace CodedVideo

open Emulation (capInByte)

/-! ## Bits that are held back -/

namespace EscapedWriter

/-- Emitting a byte leaves the bits that wait. -/
theorem emit_hold (writer : EscapedWriter) (pending : List Bool) (byte : UInt8) :
    ({ writer with pending } : EscapedWriter).emit byte = { writer.emit byte with pending } := by
  unfold emit
  simp only
  split <;> rfl

/-- Few bits are only kept. -/
theorem append_short (writer : EscapedWriter) {held bits : List Bool}
    (short : held.length + bits.length < 8) :
    BitSink.append { writer with pending := held } bits =
      { writer with pending := held ++ bits } := by
  induction bits generalizing held with
  | nil => rw [List.append_nil, BitSink.append, List.foldl_nil]
  | cons bit bits inductionHypothesis =>
      rw [List.length_cons] at short
      have notLast : ¬ held.length = 7 := by omega
      have following := @inductionHypothesis (held ++ [bit])
        (by rw [List.length_append, List.length_singleton]; omega)
      rw [BitSink.append] at following ⊢
      simp only [List.foldl_cons, BitSink.push, push, if_neg notLast] at following ⊢
      rw [following, List.append_assoc, List.singleton_append]

/-- The eighth bit is emitted with the others as a byte. -/
theorem append_byte (writer : EscapedWriter) {held bits : List Bool} (short : held.length < 8)
    (isByte : held.length + bits.length = 8) :
    BitSink.append { writer with pending := held } bits =
      { writer.emit (Bits.toByte (held ++ bits)) with pending := [] } := by
  induction bits generalizing held with
  | nil => exact absurd isByte (Nat.ne_of_lt short)
  | cons bit bits inductionHypothesis =>
      rw [List.length_cons] at isByte
      by_cases isLast : held.length = 7
      · have noMore : bits = [] := List.length_eq_zero_iff.mp (by omega)
        subst noMore
        rw [← emit_hold, BitSink.append]
        simp only [List.foldl_cons, List.foldl_nil, BitSink.push, push, if_pos isLast]
      · have lengthNow : (held ++ [bit]).length = held.length + 1 := by
          rw [List.length_append, List.length_singleton]
        have following := @inductionHypothesis (held ++ [bit]) (by omega) (by omega)
        rw [BitSink.append] at following ⊢
        simp only [List.foldl_cons, BitSink.push, push, if_neg isLast] at following ⊢
        rw [following, List.append_assoc, List.singleton_append]

end EscapedWriter

/-! ## Stores -/

namespace EscapedStore

/-- The store that holds in words what a writer holds. -/
def ofWriter (writer : EscapedWriter) : EscapedStore where
  output := writer.output
  buffer := BitBuffer.ofBits writer.pending
  zeros := capInByte writer.zeros
  emitted := writer.emitted
  escapes := writer.escapes

theorem toNat_count_ofWriter {writer : EscapedWriter} (fits : writer.pending.length < 64) :
    (ofWriter writer).buffer.count.toNat = writer.pending.length :=
  BitBuffer.toNat_count_ofBits fits

theorem emit_ofWriter (writer : EscapedWriter) (byte : UInt8) :
    (ofWriter writer).emit byte = ofWriter (writer.emit byte) := by
  have armed_iff : (ofWriter writer).zeros = 2 ↔ writer.zeros = Emulation.zerosBefore :=
    Emulation.capInByte_eq_two_iff
  simp only [emit, escape, EscapedWriter.emit, armed_iff]
  split
  · have zeros_eq := Emulation.zeroRunInByte_capInByte 0 byte
    simp only [ofWriter, ← zeros_eq]
    rfl
  · have zeros_eq := Emulation.zeroRunInByte_capInByte writer.zeros byte
    simp only [ofWriter, ← zeros_eq]

/-- A store has a byte to emit when eight bits wait. -/
theorem isFull_iff {writer : EscapedWriter} (fits : writer.pending.length < 64) :
    8 ≤ (ofWriter writer).buffer.count ↔ 8 ≤ writer.pending.length := by
  rw [UInt8.le_iff_toNat_le, toNat_count_ofWriter fits]
  rfl

/-- A store emits the bytes that a writer emits when it takes the bits one by one. -/
theorem flush_ofWriter (writer : EscapedWriter) {held bits : List Bool} (short : held.length < 8)
    (fits : held.length + bits.length < 64) :
    (ofWriter { writer with pending := held ++ bits }).flush =
      ofWriter (BitSink.append { writer with pending := held } bits) := by
  induction bytes_eq : (held.length + bits.length) / 8 generalizing writer held bits with
  | zero =>
      have notFull : ¬ 8 ≤ (ofWriter { writer with pending := held ++ bits }).buffer.count := by
        rw [isFull_iff (by rwa [List.length_append]), List.length_append]
        omega
      rw [flush, if_neg notFull, EscapedWriter.append_short writer (by omega)]
  | succ count inductionHypothesis =>
      have isFull : 8 ≤ (ofWriter { writer with pending := held ++ bits }).buffer.count := by
        rw [isFull_iff (by rwa [List.length_append]), List.length_append]
        omega
      -- The byte ends inside the new bits, for those that waited are fewer than eight.
      obtain ⟨front, back, rfl, front_length⟩ :
          ∃ front back, bits = front ++ back ∧ held.length + front.length = 8 :=
        ⟨bits.take (8 - held.length), bits.drop (8 - held.length),
          (List.take_append_drop _ _).symm, by rw [List.length_take]; omega⟩
      rw [List.length_append] at fits bytes_eq
      have byte_length : (held ++ front).length = 8 := by rwa [List.length_append]
      have taken : (ofWriter { writer with pending := held ++ (front ++ back) }).buffer.take 8 =
          (UInt64.ofNat (Bits.toNat (held ++ front)), BitBuffer.ofBits back) := by
        rw [ofWriter, ← List.append_assoc]
        exact BitBuffer.take_ofBits (by omega) byte_length.symm
      have byte_eq : (UInt64.ofNat (Bits.toNat (held ++ front))).toUInt8 =
          Bits.toByte (held ++ front) := UInt64.toUInt8_ofNat' _
      have emitted_eq := emit_ofWriter { writer with pending := back } (Bits.toByte (held ++ front))
      rw [EscapedWriter.emit_hold] at emitted_eq
      have following := @inductionHypothesis (writer.emit (Bits.toByte (held ++ front))) [] back
        (Nat.zero_lt_succ 7) (by rw [List.length_nil]; omega) (by rw [List.length_nil]; omega)
      rw [flush, if_pos isFull]
      simp only [taken, byte_eq]
      rw [BitSink.append_append, EscapedWriter.append_byte writer short front_length, ← following]
      exact congrArg flush emitted_eq

/-- A block is put as its bits are. -/
theorem putBlock_ofWriter {writer : EscapedWriter} (short : writer.pending.length < 8)
    {width : UInt8} (fits : width.toNat ≤ 32) (value : UInt32) :
    BlockSink.putBlock value width (ofWriter writer) =
      ofWriter (BitSink.append writer (Bits.ofNat width.toNat value.toNat)) := by
  have length_eq := Bits.length_ofNat width.toNat value.toNat
  have value_eq : (value.toUInt64 &&& lowMask width).toNat =
      Bits.toNat (Bits.ofNat width.toNat value.toNat) := by
    rw [toNat_and_lowMask _ (by omega), UInt32.toNat_toUInt64, Bits.toNat_ofNat]
  have buffer_eq : (ofWriter writer).buffer.push (value.toUInt64 &&& lowMask width) width =
      BitBuffer.ofBits (writer.pending ++ Bits.ofNat width.toNat value.toNat) :=
    BitBuffer.push_ofBits (by omega) value_eq length_eq.symm
  simp only [BlockSink.putBlock, buffer_eq]
  exact flush_ofWriter writer short (by omega)

/-- A single bit is a block of one bit. -/
theorem push_ofWriter {writer : EscapedWriter} (short : writer.pending.length < 8) (bit : Bool) :
    BitSink.push (ofWriter writer) bit = ofWriter (BitSink.push writer bit) := by
  have put := putBlock_ofWriter short (by decide : (1 : UInt8).toNat ≤ 32) (if bit then 1 else 0)
  cases bit <;> exact put

theorem bitsWritten_ofWriter {writer : EscapedWriter} (short : writer.pending.length < 8) :
    BitSink.bitsWritten (ofWriter writer) = BitSink.bitsWritten writer := by
  have count_eq := toNat_count_ofWriter (Nat.lt_trans short (by decide))
  simp only [BitSink.bitsWritten, count_eq]
  rfl

/-- A writer in which less than a byte waits is kept by its store. -/
theorem inWords_ofWriter :
    SinkInWords (fun writer : EscapedWriter => writer.pending.length < 8) ofWriter where
  valid_push := by
    intro writer short bit
    simp only [BitSink.push, EscapedWriter.push]
    split
    · rw [EscapedWriter.emit_hold]
      exact Nat.zero_lt_succ 7
    · simp only [List.length_append, List.length_singleton]
      omega
  bitsWritten_eq := bitsWritten_ofWriter
  push_eq := push_ofWriter
  putBlock_eq := putBlock_ofWriter

/-- The store finishes with the unit of the writer. -/
theorem finish_ofWriter {writer : EscapedWriter} (short : writer.pending.length < 8) :
    (ofWriter writer).finish = writer.finish := by
  have count_eq := toNat_count_ofWriter (Nat.lt_trans short (by decide))
  have isThere_iff : 0 < (ofWriter writer).buffer.count ↔ ¬ writer.pending = [] := by
    rw [UInt8.lt_iff_toNat_lt, count_eq]
    exact List.length_pos_iff
  have data_eq (store : EscapedStore) (buffer : BitBuffer) (byte : UInt8) :
      ({ store with buffer }.emit byte).data = (store.emit byte).data := by
    unfold emit escape
    simp only
    split <;> rfl
  unfold finish EscapedWriter.finish
  by_cases isThere : writer.pending = []
  · rw [if_neg (fun less => isThere_iff.mp less isThere), if_pos (List.isEmpty_iff.mpr isThere)]
    rfl
  · have padded : (ofWriter writer).buffer.padToByte = Bits.padToByte writer.pending :=
      BitBuffer.padToByte_ofBits short
    have emitted_eq := EscapedWriter.emit_hold writer [] (Bits.padToByte writer.pending)
    rw [if_pos (isThere_iff.mpr isThere), if_neg (mt List.isEmpty_iff.mp isThere), data_eq, padded,
      emit_ofWriter, emitted_eq]
    rfl

end EscapedStore

/-! ## Writers -/

namespace EscapedWriter

/-- An empty store shows the same in every session, and emits and ends with the same unit. -/
theorem session_inWords (fields : List CodedField) :
    let words := BitSink.session fields ({} : EscapedStore)
    let bits := BitSink.session fields ({} : EscapedWriter)
    words.1 = bits.1 ∧ words.2.data = bits.2.data ∧ words.2.escapes = bits.2.escapes ∧
      words.2.finish = bits.2.finish := by
  intro words bits
  have started : ({} : EscapedWriter).pending.length < 8 := Nat.zero_lt_succ 7
  rcases EscapedStore.inWords_ofWriter.session_eq started fields with ⟨session_eq, stillShort⟩
  have words_eq : words = (bits.1, EscapedStore.ofWriter bits.2) := session_eq
  rw [words_eq]
  exact ⟨rfl, rfl, rfl, EscapedStore.finish_ofWriter stillShort⟩

/-- Behind any session a block is written as its bits are. -/
theorem writeBlock_inWords (fields : List CodedField) (value : UInt32) (width : UInt8) :
    let writer := (BitSink.session fields ({} : EscapedWriter)).2
    BlockSink.writeBlock value width (EscapedStore.ofWriter writer) =
      (BitSink.writeBits value.toNat width.toNat writer).map EscapedStore.ofWriter := by
  have started : ({} : EscapedWriter).pending.length < 8 := Nat.zero_lt_succ 7
  have stillShort := (EscapedStore.inWords_ofWriter.session_eq started fields).2
  exact EscapedStore.inWords_ofWriter.writeBlock_eq stillShort value width

end EscapedWriter

end CodedVideo
