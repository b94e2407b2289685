import CodedVideo.Proofs.Bits.InWords

/-!
# Writing plain bytes in words

A store opens a byte of zeros with the first of its bits and sets those bits of it that are ones. Its
bytes are at any time those into which a writer packs its bits, the last one filled with zeros.

Main statements: `PlainStore.inWords_ofWriter` and `PlainWriter.session_inWords`.
-/

namespace CodedVideo

/-! ## The last byte -/

namespace Bits

/-- Packed bits fill up their last byte. -/
theorem length_pack (bits : List Bool) :
    8 * (pack bits).length = bits.length + toBoundary bits.length := by
  rw [← length_ofBytes, ofBytes_pack, List.length_append, List.length_replicate]

/-- A bit string is whole bytes and fewer bits than a byte has. -/
theorem exists_whole_append (bits : List Bool) :
    ∃ whole last, bits = whole ++ last ∧ whole.length % 8 = 0 ∧ last.length = bits.length % 8 := by
  refine ⟨bits.take (8 * (bits.length / 8)), bits.drop (8 * (bits.length / 8)),
    (List.take_append_drop _ _).symm, ?_, ?_⟩
  · rw [List.length_take]
    omega
  · rw [List.length_drop]
    omega

/-- Bits of one byte are packed into it. -/
theorem pack_byte {bits : List Bool} (isThere : bits ≠ []) (fits : bits.length ≤ 8) :
    pack bits = [padToByte bits] := by
  have length_pos := List.length_pos_iff.mpr isThere
  have boundary_eq : toBoundary bits.length = 8 - bits.length := by
    rw [toBoundary]
    omega
  have isByte : (bits ++ List.replicate (8 - bits.length) false).length = 8 := by
    rw [List.length_append, List.length_replicate]
    omega
  apply ofBytes_inj
  rw [ofBytes_pack, boundary_eq, ofBytes_cons, ofBytes_nil, List.append_nil, padToByte,
    ofByte_toByte isByte]

/-- A zero is there before it is written. -/
theorem padToByte_concat_false {bits : List Bool} (short : bits.length < 8) :
    padToByte (bits ++ [false]) = padToByte bits := by
  have width_eq : 8 - bits.length = 8 - (bits ++ [false]).length + 1 := by
    rw [List.length_append, List.length_singleton]
    omega
  have zero_eq : toNat [false] = 0 := rfl
  apply UInt8.toNat_inj.mp
  rw [toNat_padToByte (Nat.le_of_lt short), toNat_padToByte (by
    rw [List.length_append, List.length_singleton]
    exact short), toNat_append, zero_eq, List.length_singleton, width_eq, Nat.add_comm _ 1,
    Nat.shiftLeft_add, Nat.add_zero]

/-- A one is set at its place. -/
theorem padToByte_concat_true {bits : List Bool} (short : bits.length < 8) :
    padToByte (bits ++ [true]) =
      padToByte bits ||| 1 <<< (7 - UInt8.ofNat bits.length) := by
  have length_eq : (bits ++ [true]).length = bits.length + 1 := List.length_append
  have fits : (bits ++ [true]).length ≤ 8 := by rwa [length_eq]
  have one_eq : toNat [true] = 1 := rfl
  have place_eq : (7 - UInt8.ofNat bits.length).toNat % 8 = 7 - bits.length := by
    have number_eq : (UInt8.ofNat bits.length).toNat = bits.length :=
      UInt8.toNat_ofNat_of_lt' (Nat.lt_trans short (by decide))
    have seven_eq : (7 : UInt8).toNat = 7 := rfl
    rw [UInt8.toNat_sub_of_le, number_eq, seven_eq]
    · omega
    · rw [UInt8.le_iff_toNat_le, number_eq, seven_eq]
      omega
  have width_eq : 8 - bits.length = 1 + (7 - bits.length) := by omega
  have rest_eq : 8 - (bits.length + 1) = 7 - bits.length := by omega
  have bit_lt : 1 <<< (7 - bits.length) < 256 := by
    rw [Nat.shiftLeft_eq, Nat.one_mul]
    exact Nat.pow_lt_pow_right Nat.one_lt_two (by omega : 7 - bits.length < 8)
  have byte_one : (1 : UInt8).toNat = 1 := rfl
  apply UInt8.toNat_inj.mp
  rw [UInt8.toNat_or, UInt8.toNat_shiftLeft, place_eq, byte_one, toNat_padToByte fits,
    toNat_padToByte (Nat.le_of_lt short), length_eq, rest_eq, toNat_append, one_eq,
    List.length_singleton, Nat.shiftLeft_add_eq_or_of_lt Nat.one_lt_two, Nat.shiftLeft_or_distrib,
    ← Nat.shiftLeft_add, width_eq]
  congr 1
  exact (Nat.mod_eq_of_lt bit_lt).symm

end Bits

/-! ## Stores -/

namespace PlainStore

/-- The store that holds in words what a writer holds. -/
def ofWriter (writer : PlainWriter) : PlainStore where
  data := writer.bytes.toArray
  bitPosition := UInt8.ofNat (writer.bits.length % 8)

theorem toNat_bitPosition_ofWriter (writer : PlainWriter) :
    (ofWriter writer).bitPosition.toNat = writer.bits.length % 8 :=
  UInt8.toNat_ofNat_of_lt' (Nat.lt_trans (Nat.mod_lt _ (by decide)) (by decide))

/-- A new byte is opened where the last one is full. -/
theorem bitPosition_ofWriter_eq_zero_iff (writer : PlainWriter) :
    (ofWriter writer).bitPosition = 0 ↔ writer.bits.length % 8 = 0 := by
  rw [← UInt8.toNat_inj, toNat_bitPosition_ofWriter]
  rfl

/-- The last byte of an array is changed. -/
theorem modify_push {α : Type} (front : Array α) (last : α) (change : α → α) :
    (front.push last).modify ((front.push last).size - 1) change = front.push (change last) := by
  apply Array.ext_getElem?
  intro index
  rw [Array.size_push, Nat.add_sub_cancel, Array.getElem?_modify, Array.getElem?_push,
    Array.getElem?_push]
  by_cases isLast : front.size = index
  · rw [if_pos isLast, if_pos isLast.symm, if_pos isLast.symm]
    rfl
  · rw [if_neg isLast, if_neg (Ne.symm isLast), if_neg (Ne.symm isLast)]

section

variable {whole last : List Bool} (aligned : whole.length % 8 = 0) (short : last.length < 8)

include aligned short

theorem opened_ofWriter :
    (ofWriter { bits := whole ++ last }).opened =
      (Bits.pack whole).toArray.push (Bits.padToByte last) := by
  have isFull_iff := bitPosition_ofWriter_eq_zero_iff { bits := whole ++ last }
  have data_eq : (ofWriter { bits := whole ++ last }).data =
      (Bits.pack whole ++ Bits.pack last).toArray :=
    congrArg List.toArray (Bits.pack_append aligned last)
  rw [List.length_append] at isFull_iff
  rw [opened, data_eq, List.push_toArray, List.push_toArray]
  by_cases isFull : last = []
  · subst isFull
    have nothing : Bits.pack [] = [] := rfl
    have zero_eq : Bits.padToByte [] = 0 := rfl
    rw [if_pos (isFull_iff.mpr aligned), nothing, zero_eq, List.append_nil]
  · have length_pos := List.length_pos_iff.mpr isFull
    rw [if_neg (mt isFull_iff.mp (by omega)), Bits.pack_byte isFull (Nat.le_of_lt short)]

theorem data_ofWriter_concat (bit : Bool) :
    (ofWriter { bits := whole ++ (last ++ [bit]) }).data =
      (Bits.pack whole).toArray.push (Bits.padToByte (last ++ [bit])) := by
  have isThere : last ++ [bit] ≠ [] := List.append_ne_nil_of_right_ne_nil last (List.cons_ne_nil _ _)
  have fits : (last ++ [bit]).length ≤ 8 := by
    rw [List.length_append, List.length_singleton]
    exact short
  rw [ofWriter, PlainWriter.bytes, Bits.pack_append aligned, Bits.pack_byte isThere fits,
    List.push_toArray]

end

theorem push_ofWriter (writer : PlainWriter) (bit : Bool) :
    (ofWriter writer).push bit = ofWriter (BitSink.push writer bit) := by
  rcases writer with ⟨bits⟩
  obtain ⟨whole, last, rfl, aligned, last_length⟩ := Bits.exists_whole_append bits
  have short : last.length < 8 := by omega
  have pushed_eq : BitSink.push (PlainWriter.mk (whole ++ last)) bit =
      { bits := whole ++ (last ++ [bit]) } := congrArg PlainWriter.mk (List.append_assoc _ _ _)
  have position_eq : ((ofWriter { bits := whole ++ last }).bitPosition + 1) % 8 =
      (ofWriter { bits := whole ++ (last ++ [bit]) }).bitPosition := by
    have eight_eq : (8 : UInt8).toNat = 8 := rfl
    have one_eq : (1 : UInt8).toNat = 1 := rfl
    have length_eq : (whole ++ (last ++ [bit])).length = (whole ++ last).length + 1 := by
      rw [← List.append_assoc, List.length_append, List.length_singleton]
    rw [← UInt8.toNat_inj, UInt8.toNat_mod, UInt8.toNat_add, toNat_bitPosition_ofWriter,
      toNat_bitPosition_ofWriter, eight_eq, one_eq]
    simp only [length_eq]
    omega
  have data_eq := data_ofWriter_concat aligned short bit
  rw [pushed_eq, push, opened_ofWriter aligned short, position_eq]
  cases bit with
  | false =>
      rw [Bits.padToByte_concat_false short] at data_eq
      simp only [Bool.false_eq_true, if_false, ← data_eq]
  | true =>
      rw [Bits.padToByte_concat_true short, last_length] at data_eq
      simp only [if_true, modify_push]
      exact congrArg (PlainStore.mk · _) data_eq.symm

/-! ### Blocks -/

/-- A shift and a mask give one bit of a word. -/
theorem shiftRight_and_one_ne_zero (value : UInt32) {place : Nat} (isInside : place < 32) :
    ((value >>> UInt32.ofNat place) &&& 1 != 0) = value.toNat.testBit place := by
  have place_eq : (UInt32.ofNat place).toNat = place :=
    UInt32.toNat_ofNat_of_lt' (Nat.lt_trans isInside (by decide))
  have one_eq : (1 : UInt32).toNat = 1 := rfl
  have zero_eq : (0 : UInt32).toNat = 0 := rfl
  rw [Bool.eq_iff_iff, bne_iff_ne, ne_eq, ← UInt32.toNat_inj, UInt32.toNat_and,
    UInt32.toNat_shiftRight, place_eq, one_eq, zero_eq, Nat.and_one_is_mod,
    Nat.mod_eq_of_lt isInside, Nat.testBit_eq_decide_div_mod_eq, decide_eq_true_eq,
    Nat.shiftRight_eq_div_pow]
  omega

/-- The low bits of a number are written as a writer takes them. -/
theorem shiftOut_ofWriter (value : UInt32) {count : Nat} (fits : count ≤ 32) (writer : PlainWriter) :
    shiftOut value count (ofWriter writer) =
      ofWriter (BitSink.append writer (Bits.ofNat count value.toNat)) := by
  induction count generalizing writer with
  | zero => rfl
  | succ count inductionHypothesis =>
      rw [shiftOut, shiftRight_and_one_ne_zero value fits, push_ofWriter,
        inductionHypothesis (Nat.le_of_succ_le fits)]
      rfl

theorem bitsWritten_ofWriter (writer : PlainWriter) :
    BitSink.bitsWritten (ofWriter writer) = BitSink.bitsWritten writer := by
  have size_eq : (ofWriter writer).data.size = (Bits.pack writer.bits).length := List.size_toArray
  have packed := Bits.length_pack writer.bits
  have isFull_iff := bitPosition_ofWriter_eq_zero_iff writer
  rw [Bits.toBoundary] at packed
  simp only [BitSink.bitsWritten, isFull_iff, size_eq, toNat_bitPosition_ofWriter]
  split <;> omega

/-- A writer is kept by the store of its bytes. -/
theorem inWords_ofWriter : SinkInWords (fun _ : PlainWriter => True) ofWriter where
  valid_push := fun _ _ => trivial
  bitsWritten_eq := fun _ => bitsWritten_ofWriter _
  push_eq := fun _ bit => (push_ofWriter _ bit)
  putBlock_eq := fun _ _ fits value => shiftOut_ofWriter value fits _

end PlainStore

/-! ## Writers -/

namespace PlainWriter

/-- An empty store shows the same in every session and ends with the same bytes. -/
theorem session_inWords (fields : List CodedField) :
    let words := BitSink.session fields ({} : PlainStore)
    let bits := BitSink.session fields ({} : PlainWriter)
    words.1 = bits.1 ∧ words.2.data.toList = bits.2.bytes := by
  intro words bits
  have session_eq : BitSink.session fields (PlainStore.ofWriter {}) =
      (bits.1, PlainStore.ofWriter bits.2) :=
    (PlainStore.inWords_ofWriter.session_eq trivial fields).1
  have words_eq : words = _ := session_eq
  rw [words_eq]
  exact ⟨rfl, rfl⟩

/-- A block is written as its bits are. -/
theorem writeBlock_inWords (value : UInt32) (width : UInt8) (writer : PlainWriter) :
    BlockSink.writeBlock value width (PlainStore.ofWriter writer) =
      (BitSink.writeBits value.toNat width.toNat writer).map PlainStore.ofWriter :=
  PlainStore.inWords_ofWriter.writeBlock_eq trivial value width

end PlainWriter

end CodedVideo
