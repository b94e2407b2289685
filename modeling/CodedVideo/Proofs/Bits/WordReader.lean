import CodedVideo.Proofs.Bits.InWords
import CodedVideo.Proofs.Standing

/-!
# Reading plain bytes in words

A cursor in a byte string stands at a byte and at a bit of it, where a source keeps the bits that are
not handed out yet. Both stand at the same position and hand out the same bits. A block is shifted
into a word bit by bit, and is refused in front of its first bit if the bytes end inside of it.

Main statements: `PlainCursor.inWords_inside`, `PlainReader.session_inWords` and
`PlainReader.run_inWords`.
-/

namespace CodedVideo

/-! ## Places in bit strings -/

namespace Bits

/-- The bits of a number stand in their order. -/
theorem getElem?_ofNat {width index : Nat} (isInside : index < width) (value : Nat) :
    (ofNat width value)[index]? = some (value.testBit (width - 1 - index)) := by
  induction width generalizing index with
  | zero => exact absurd isInside (Nat.not_lt_zero _)
  | succ width inductionHypothesis =>
      cases index with
      | zero => rfl
      | succ index =>
          have place_eq : width + 1 - 1 - (index + 1) = width - 1 - index := by omega
          rw [ofNat, List.getElem?_cons_succ, place_eq]
          exact inductionHypothesis (Nat.lt_of_succ_lt_succ isInside)

/-- A position is a byte and a bit of it. -/
theorem getElem?_ofBytes (bytes : List UInt8) (position : Nat) :
    (ofBytes bytes)[position]? =
      bytes[position / 8]?.map fun byte => byte.toNat.testBit (7 - position % 8) := by
  induction bytes generalizing position with
  | nil => rfl
  | cons byte bytes inductionHypothesis =>
      have byte_length := length_ofByte byte
      rw [ofBytes_cons]
      by_cases isFirst : position < 8
      · have index_eq : position / 8 = 0 := Nat.div_eq_of_lt isFirst
        rw [List.getElem?_append_left (by omega), ofByte, getElem?_ofNat isFirst, index_eq,
          Nat.mod_eq_of_lt isFirst]
        rfl
      · have index_eq : position / 8 = (position - 8) / 8 + 1 := by omega
        have place_eq : (position - 8) % 8 = position % 8 := by omega
        rw [List.getElem?_append_right (by omega), byte_length, inductionHypothesis, index_eq,
          List.getElem?_cons_succ, place_eq]

/-- Behind whole bytes stand the bits of the other bytes. -/
theorem drop_ofBytes (count : Nat) (bytes : List UInt8) :
    (ofBytes bytes).drop (8 * count) = ofBytes (bytes.drop count) := by
  by_cases isInside : count ≤ bytes.length
  · have front_length : (ofBytes (bytes.take count)).length = 8 * count := by
      rw [length_ofBytes, List.length_take_of_le isInside]
    have whole : (ofBytes (bytes.take count) ++ ofBytes (bytes.drop count)).drop (8 * count) = _ :=
      List.drop_left' front_length
    rwa [← ofBytes_append, List.take_append_drop] at whole
  · rw [List.drop_of_length_le (l := bytes) (by omega)]
    exact List.drop_of_length_le (by rw [length_ofBytes]; omega)

end Bits

/-! ## Cursors -/

namespace PlainCursor

/-- The cursor at a position in a byte string. -/
def inside (bytes : List UInt8) (position : Nat) : PlainCursor where
  data := bytes.toArray
  bytePosition := position / 8
  bitPosition := UInt8.ofNat (position % 8)
  bitPosition_lt := by
    have isInside : position % 8 < 8 := Nat.mod_lt position (by decide)
    rw [UInt8.lt_iff_toNat_lt, UInt8.toNat_ofNat_of_lt' (Nat.lt_trans isInside (by decide))]
    exact isInside

/-- A cursor starts at the first position. -/
theorem inside_zero (bytes : List UInt8) : inside bytes 0 = { data := bytes.toArray } :=
  rfl

theorem toNat_bitPosition_inside (bytes : List UInt8) (position : Nat) :
    (inside bytes position).bitPosition.toNat = position % 8 :=
  UInt8.toNat_ofNat_of_lt' (Nat.lt_trans (Nat.mod_lt position (by decide)) (by decide))

/-- A cursor stands at the start of a byte at every eighth position. -/
theorem bitPosition_inside_eq_zero_iff (bytes : List UInt8) (position : Nat) :
    (inside bytes position).bitPosition = 0 ↔ position % 8 = 0 := by
  rw [← UInt8.toNat_inj, toNat_bitPosition_inside]
  rfl

theorem position_inside (bytes : List UInt8) (position : Nat) :
    (inside bytes position).position = position := by
  rw [PlainCursor.position, toNat_bitPosition_inside, inside]
  exact Nat.div_add_mod' position 8

theorem toNat_bitPosition_lt (cursor : PlainCursor) : cursor.bitPosition.toNat < 8 :=
  UInt8.lt_iff_toNat_lt.mp cursor.bitPosition_lt

/-- Cursors in one byte string at one position are the same. -/
theorem ext_position {first second : PlainCursor} (data_eq : first.data = second.data)
    (position_eq : first.position = second.position) : first = second := by
  have first_lt := first.toNat_bitPosition_lt
  have second_lt := second.toNat_bitPosition_lt
  rcases first with ⟨data, bytePosition, bitPosition, _⟩
  rcases second with ⟨otherData, otherBytePosition, otherBitPosition, _⟩
  simp only [PlainCursor.position] at *
  have byte_eq : bytePosition = otherBytePosition := by omega
  have bit_eq : bitPosition = otherBitPosition := by
    rw [← UInt8.toNat_inj]
    omega
  subst data_eq byte_eq bit_eq
  rfl

theorem position_advance (cursor : PlainCursor) :
    cursor.advance.data = cursor.data ∧ cursor.advance.position = cursor.position + 1 := by
  have isInside := cursor.toNat_bitPosition_lt
  have eight_eq : (8 : UInt8).toNat = 8 := rfl
  have one_eq : (1 : UInt8).toNat = 1 := rfl
  have zero_eq : (0 : UInt8).toNat = 0 := rfl
  have sum_eq : (cursor.bitPosition + 1).toNat = cursor.bitPosition.toNat + 1 := by
    rw [UInt8.toNat_add]
    omega
  unfold advance PlainCursor.position
  split
  · next isLast =>
      rw [← UInt8.toNat_inj, sum_eq, eight_eq] at isLast
      exact ⟨rfl, by simp only [zero_eq]; omega⟩
  · exact ⟨rfl, by simp only [sum_eq]; omega⟩

theorem advance_inside (bytes : List UInt8) (position : Nat) :
    (inside bytes position).advance = inside bytes (position + 1) := by
  obtain ⟨data_eq, position_eq⟩ := position_advance (inside bytes position)
  apply ext_position
  · rw [data_eq, inside, inside]
  rw [position_eq, position_inside, position_inside]

/-- A shift and a mask give one bit of a byte. -/
theorem toNat_shiftRight_and_one (byte : UInt8) {place : UInt8} (isInside : place < 8) :
    ((byte >>> (7 - place)) &&& 1).toNat = (byte.toNat.testBit (7 - place.toNat)).toNat := by
  rw [UInt8.lt_iff_toNat_lt] at isInside
  have eight_eq : (8 : UInt8).toNat = 8 := rfl
  have shift_eq : (7 - place).toNat = 7 - place.toNat := by
    apply UInt8.toNat_sub_of_le
    rw [UInt8.le_iff_toNat_le]
    exact Nat.le_of_lt_succ isInside
  have one_eq : (1 : UInt8).toNat = 1 := rfl
  rw [UInt8.toNat_and, UInt8.toNat_shiftRight, shift_eq, one_eq, Nat.and_one_is_mod,
    Nat.toNat_testBit, Nat.shiftRight_eq_div_pow, Nat.mod_eq_of_lt (by omega : 7 - place.toNat < 8)]

/-- The next bit is the one at the position of the cursor. -/
theorem nextBit_inside (bytes : List UInt8) (position : Nat) :
    (inside bytes position).nextBit =
      (Bits.ofBytes bytes)[position]?.map fun bit =>
        (UInt8.ofNat bit.toNat, inside bytes (position + 1)) := by
  have byte_eq : (inside bytes position).data[(inside bytes position).bytePosition]? =
      bytes[position / 8]? := List.getElem?_toArray
  rw [nextBit, byte_eq, Bits.getElem?_ofBytes, advance_inside]
  cases bytes[position / 8]? with
  | none => rfl
  | some byte =>
      have bit_eq := toNat_shiftRight_and_one byte (inside bytes position).bitPosition_lt
      rw [toNat_bitPosition_inside] at bit_eq
      simp only [Option.map_some, ← bit_eq, UInt8.ofNat_toNat]

/-- A bit is shifted into a number behind those that it holds. -/
theorem shiftLeft_or_bit {held : List Bool} (fits : held.length < 32) (bit : Bool) :
    UInt32.ofNat (Bits.toNat held) <<< 1 ||| (UInt8.ofNat bit.toNat).toUInt32 =
      UInt32.ofNat (Bits.toNat (held ++ [bit])) := by
  have below (bits : List Bool) (few : bits.length ≤ 32) : Bits.toNat bits < 4294967296 := by
    refine Nat.lt_of_lt_of_le (Bits.toNat_lt bits) ?_
    rw [Nat.shiftLeft_eq, Nat.one_mul]
    exact Nat.pow_le_pow_right Nat.zero_lt_two few
  have whole_lt := below (held ++ [bit]) (by rwa [List.length_append, List.length_singleton])
  have whole_eq : Bits.toNat (held ++ [bit]) = Bits.toNat held <<< 1 ||| bit.toNat := by
    rw [Bits.toNat_append, List.length_singleton, Nat.shiftLeft_add_eq_or_of_lt]
    · cases bit <;> rfl
    · cases bit <;> decide
  have shifted_lt : Bits.toNat held <<< 1 < 4294967296 :=
    Nat.lt_of_le_of_lt (whole_eq ▸ Nat.left_le_or) whole_lt
  have bit_eq : (UInt8.ofNat bit.toNat).toUInt32.toNat = bit.toNat := by cases bit <;> rfl
  have one_eq : (1 : UInt32).toNat % 32 = 1 := rfl
  apply UInt32.toNat_inj.mp
  rw [UInt32.toNat_or, UInt32.toNat_shiftLeft,
    UInt32.toNat_ofNat_of_lt' (below held (Nat.le_of_lt fits)),
    UInt32.toNat_ofNat_of_lt' whole_lt, one_eq, bit_eq, whole_eq]
  congr 1
  exact Nat.mod_eq_of_lt shifted_lt

/-- The bit at the position of a source is the next one of those that are not handed out. -/
theorem getElem?_position {decoded : List Bool} {source : PlainSource}
    (isIn : PlainReader.SourceIn decoded source) :
    decoded[source.position]? = source.unread.head? := by
  rw [isIn.unread_eq, List.head?_drop]

section

variable {bytes : List UInt8} {source : PlainSource}
  (isIn : PlainReader.SourceIn (Bits.ofBytes bytes) source)

include isIn

/-- The next bits are shifted in as a source hands them out. -/
theorem shiftIn_inside {count : Nat} {held : List Bool} (fits : held.length + count ≤ 32) :
    (inside bytes source.position).shiftIn count (UInt32.ofNat (Bits.toNat held)) =
      (BitSource.take count source).map fun step =>
        (UInt32.ofNat (Bits.toNat (held ++ step.1)), inside bytes step.2.position) := by
  induction count generalizing held source with
  | zero =>
      rw [shiftIn, BitSource.take, Option.map_some, List.append_nil]
  | succ count inductionHypothesis =>
      rcases source with ⟨position, unread⟩
      rw [shiftIn, nextBit_inside, getElem?_position isIn]
      cases unread with
      | nil => rfl
      | cons bit unread =>
          have stillFits : (held ++ [bit]).length + count ≤ 32 := by
            rw [List.length_append, List.length_singleton]
            omega
          have following := inductionHypothesis (isIn.next rfl) stillFits
          simp only [List.head?_cons, Option.map_some, BitSource.take, BitSource.next,
            PlainSource.next]
          rw [shiftLeft_or_bit (by omega), following]
          cases BitSource.take count (PlainSource.mk (position + 1) unread) with
          | none => rfl
          | some step =>
              rw [Option.map_some, List.append_assoc]
              rfl

theorem remainingBits_inside :
    (inside bytes source.position).remainingBits = source.unread.length := by
  have size_eq : (inside bytes source.position).data.size = bytes.length := List.size_toArray
  rw [remainingBits, position_inside, size_eq, isIn.unread_eq, List.length_drop,
    Bits.length_ofBytes, Nat.mul_comm]

/-- A block is taken as its bits are. -/
theorem takeBlock_inside {width : UInt8} (fits : width.toNat ≤ 32) :
    BlockSource.takeBlock width (inside bytes source.position) =
      (BitSource.take width.toNat source).map fun step =>
        (UInt32.ofNat (Bits.toNat step.1), inside bytes step.2.position) := by
  have started : ([] : List Bool).length + width.toNat ≤ 32 := by
    rwa [List.length_nil, Nat.zero_add]
  have shifted : (inside bytes source.position).shiftIn width.toNat 0 = _ :=
    shiftIn_inside isIn started
  simp only [BlockSource.takeBlock, remainingBits_inside isIn]
  split
  · next isShort =>
      cases take_eq : BitSource.take width.toNat source with
      | none => rfl
      | some step =>
          have few : width.toNat + step.2.unread.length ≤ source.unread.length :=
            BitSource.bitsLeft_of_take take_eq
          omega
  · exact shifted

/-! ### Single bits -/

/-- A cursor hands out the bit that the source hands out. -/
theorem next_inside :
    BitSource.next (inside bytes source.position) =
      (BitSource.next source).map fun step => (step.1, inside bytes step.2.position) := by
  simp only [BitSource.next, nextBit_inside, getElem?_position isIn]
  rcases source with ⟨position, unread⟩
  cases unread with
  | nil => rfl
  | cons bit unread => cases bit <;> rfl

/-! ### Byte boundaries -/

/-- The bits of whole bytes lead to the next boundary. -/
theorem position_drop_toBoundary :
    (source.drop (Bits.toBoundary source.position)).position =
      source.position + Bits.toBoundary source.position := by
  have position_le := isIn.position_le
  rw [Bits.length_ofBytes] at position_le
  rw [PlainSource.drop, isIn.unread_eq, List.length_drop, Bits.length_ofBytes, Bits.toBoundary]
  simp only
  omega

theorem moveToBoundary_inside :
    (inside bytes source.position).moveToBoundary =
      inside bytes (source.drop (Bits.toBoundary source.position)).position := by
  have zero_eq : (0 : UInt8).toNat = 0 := rfl
  have isBoundary_iff := bitPosition_inside_eq_zero_iff bytes source.position
  apply ext_position
  · unfold moveToBoundary
    split <;> rfl
  · rw [position_inside, position_drop_toBoundary isIn, Bits.toBoundary]
    unfold moveToBoundary
    split
    · next isInside =>
        rw [ne_eq, isBoundary_iff] at isInside
        simp only [PlainCursor.position, inside, zero_eq]
        omega
    · next isBoundary =>
        rw [ne_eq, isBoundary_iff, Decidable.not_not] at isBoundary
        rw [position_inside]
        omega

/-- The bytes behind the next boundary are those that its bits write. -/
theorem remainingBytes_inside :
    (inside bytes source.position).remainingBytes =
      Bits.pack (source.drop (Bits.toBoundary source.position)).unread := by
  have isBoundary_iff := bitPosition_inside_eq_zero_iff bytes source.position
  have count_eq : (if (inside bytes source.position).bitPosition = 0 then source.position / 8
      else source.position / 8 + 1) = (source.position + Bits.toBoundary source.position) / 8 := by
    rw [Bits.toBoundary]
    split
    · next isBoundary =>
        rw [isBoundary_iff] at isBoundary
        omega
    · next isInside =>
        rw [isBoundary_iff] at isInside
        omega
  have whole_eq : source.position + Bits.toBoundary source.position =
      8 * ((source.position + Bits.toBoundary source.position) / 8) := by
    rw [Bits.toBoundary]
    omega
  have data_eq : (inside bytes source.position).data.toList = bytes := rfl
  have byte_eq : (inside bytes source.position).bytePosition = source.position / 8 := rfl
  rw [remainingBytes, data_eq, byte_eq, count_eq, (isIn.drop _).unread_eq,
    position_drop_toBoundary isIn, whole_eq, Bits.drop_ofBytes, Bits.pack_ofBytes, ← whole_eq]

end

/-! ### Sources in words -/

/-- A source in a byte string is kept by the cursor at its position. -/
theorem inWords_inside (bytes : List UInt8) :
    SourceInWords (PlainReader.SourceIn (Bits.ofBytes bytes))
      fun source => inside bytes source.position where
  valid_next := PlainReader.SourceIn.next
  position_eq := fun _ => position_inside bytes _
  next_eq := next_inside
  takeBlock_eq := takeBlock_inside

instance : FiniteSource PlainCursor where
  bitsLeft_lt {cursor after bit} next_eq := by
    obtain ⟨data_eq, position_eq⟩ := position_advance cursor
    have isInside := cursor.toNat_bitPosition_lt
    simp only [BitSource.next, nextBit] at next_eq
    cases byte_eq : cursor.data[cursor.bytePosition]? with
    | none =>
        rw [byte_eq] at next_eq
        cases next_eq
    | some byte =>
        obtain ⟨isThere, -⟩ := Array.getElem?_eq_some_iff.mp byte_eq
        have position_lt : cursor.position < cursor.data.size * 8 := by
          rw [PlainCursor.position]
          omega
        rw [byte_eq] at next_eq
        cases next_eq
        simp only [BitSource.bitsLeft, remainingBits, data_eq, position_eq]
        omega

end PlainCursor

/-! ## Readers -/

namespace PlainReader

/-- The cursor of a reader of `bytes`, with its fault. -/
abbrev cursor (bytes : List UInt8) : PlainReader → Reader PlainCursor :=
  Reader.inWords fun source => PlainCursor.inside bytes source.position

/-- A cursor in front of the first bit shows the same in every session and ends where the reader
does. -/
theorem session_inWords (bytes : List UInt8) (session : Session) :
    session.run { source := { data := bytes.toArray } : Reader PlainCursor } =
      ((session.run (ofBytes bytes)).1, cursor bytes (session.run (ofBytes bytes)).2) := by
  have started : SourceIn (Bits.ofBytes bytes) (ofBytes bytes).source := ReachedFrom.start.sourceIn
  rw [← PlainCursor.inside_zero]
  exact (PlainCursor.inWords_inside bytes).session_eq started session

/-- A decoder gives the same result from a cursor in front of the first bit. -/
theorem run_inWords (bytes : List UInt8) {α : Type} (decoder : Decoder α) :
    decoder.run { source := { data := bytes.toArray } : Reader PlainCursor } =
      ((decoder.run (ofBytes bytes)).1, cursor bytes (decoder.run (ofBytes bytes)).2) := by
  have started : SourceIn (Bits.ofBytes bytes) (ofBytes bytes).source := ReachedFrom.start.sourceIn
  rw [← PlainCursor.inside_zero]
  exact (PlainCursor.inWords_inside bytes).run_eq started decoder

/-- Wherever a reader is led to, a block is read as its bits are, and no fault moves the cursor. -/
theorem readBlock_inWords {bytes : List UInt8} {reader : PlainReader}
    (reached : ReachedFrom bytes reader) (width : UInt8) :
    Reader.readBlock width (cursor bytes reader) =
      ((Reader.readBits width.toNat reader).1.map UInt32.ofNat,
        cursor bytes (Reader.readBits width.toNat reader).2) :=
  (PlainCursor.inWords_inside bytes).readBlock_eq reached.sourceIn width

/-- What a reader shows of its place, and its way to the next byte boundary, are the same in
words. -/
theorem counts_inWords {bytes : List UInt8} {reader : PlainReader}
    (reached : ReachedFrom bytes reader) :
    (cursor bytes reader).position = reader.position ∧
      (cursor bytes reader).bitsLeft = reader.bitsLeft ∧
        (cursor bytes reader).source.remainingBytes = reader.remainingBytes ∧
          { cursor bytes reader with source := (cursor bytes reader).source.moveToBoundary } =
            cursor bytes reader.moveToBoundary := by
  have isIn := reached.sourceIn
  refine ⟨PlainCursor.position_inside _ _, PlainCursor.remainingBits_inside isIn,
    PlainCursor.remainingBytes_inside isIn, ?_⟩
  exact congrArg (Reader.mk · reader.fault) (PlainCursor.moveToBoundary_inside isIn)

end PlainReader

end CodedVideo
