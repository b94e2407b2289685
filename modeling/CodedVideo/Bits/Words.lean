import CodedVideo.Bits.Buffer
import CodedVideo.Bits.Plain
import CodedVideo.Bits.Sink

/-!
# Bits in words

Sources and sinks that keep their place in words of the machine read and write several bits at once,
as one number. In plain bytes the place is a byte and a bit inside of it.
-/

namespace CodedVideo

/-! ## Blocks -/

/-- A source that gives blocks of at most 32 bits. -/
class BlockSource (σ : Type) where
  /-- The number that the next `width` bits write and the source behind them, or nothing if there
  are fewer. -/
  takeBlock : UInt8 → σ → Option (UInt32 × σ)

/-- A sink that takes blocks of at most 32 bits. -/
class BlockSink (σ : Type) where
  /-- The sink with the low `width` bits of a number behind what it holds. -/
  putBlock : UInt32 → UInt8 → σ → σ

/-- Reads a block of `width` bits, at most 32. -/
def Reader.readBlock {σ : Type} [BlockSource σ] (width : UInt8) : ReadM σ UInt32 := fun reader =>
  match reader.fault with
  | some fault => (.error fault, reader)
  | none =>
      if 32 < width then fail (.invalidBitCount width.toNat) reader
      else
        match BlockSource.takeBlock width reader.source with
        | some (value, rest) => (.ok value, { reader with source := rest })
        | none => fail .unexpectedEnd reader

/-- Writes the low `width` bits of `value`, at most 32. -/
def BlockSink.writeBlock {σ : Type} [BlockSink σ] (value : UInt32) (width : UInt8) (sink : σ) :
    Except BitFault σ :=
  if 32 < width then .error (.invalidBitCount width.toNat)
  else .ok (putBlock value width sink)

/-! ## Reading plain bytes -/

/-- A place in a byte string. -/
structure PlainCursor where
  data : Array UInt8
  /-- The index of the byte that is being read. -/
  bytePosition : Nat := 0
  /-- The number of its bits that were read. -/
  bitPosition : UInt8 := 0
  bitPosition_lt : bitPosition < 8 := by decide
deriving DecidableEq, Repr

namespace PlainCursor

/-- The number of bits in front of the cursor. -/
def position (cursor : PlainCursor) : Nat :=
  cursor.bytePosition * 8 + cursor.bitPosition.toNat

/-- The number of bits behind the cursor. -/
def remainingBits (cursor : PlainCursor) : Nat :=
  cursor.data.size * 8 - cursor.position

/-- Behind a bit that is not the last one of its byte stands another one. -/
theorem succ_lt {bitPosition : UInt8} (isInside : bitPosition < 8) (notLast : bitPosition + 1 ≠ 8) :
    bitPosition + 1 < 8 := by
  rw [UInt8.lt_iff_toNat_lt] at *
  rw [ne_eq, ← UInt8.toNat_inj] at notLast
  have sum_eq : (bitPosition + 1).toNat = bitPosition.toNat + 1 := by
    rw [UInt8.toNat_add]
    exact Nat.mod_eq_of_lt (Nat.lt_trans (Nat.succ_lt_succ isInside) (by decide))
  have eight_eq : (8 : UInt8).toNat = 8 := rfl
  omega

/-- The cursor behind the next bit. -/
def advance (cursor : PlainCursor) : PlainCursor :=
  if isLast : cursor.bitPosition + 1 = 8 then
    { cursor with
      bytePosition := cursor.bytePosition + 1
      bitPosition := 0
      bitPosition_lt := by decide }
  else
    { cursor with
      bitPosition := cursor.bitPosition + 1
      bitPosition_lt := succ_lt cursor.bitPosition_lt isLast }

/-- The next bit, as a number, and the cursor behind it. -/
def nextBit (cursor : PlainCursor) : Option (UInt8 × PlainCursor) :=
  match cursor.data[cursor.bytePosition]? with
  | none => none
  | some byte => some ((byte >>> (7 - cursor.bitPosition)) &&& 1, cursor.advance)

/-- Shifts the next `count` bits into a number. -/
def shiftIn : Nat → UInt32 → PlainCursor → Option (UInt32 × PlainCursor)
  | 0, value, cursor => some (value, cursor)
  | count + 1, value, cursor =>
      match cursor.nextBit with
      | none => none
      | some (bit, rest) => shiftIn count (value <<< 1 ||| bit.toUInt32) rest

instance : BlockSource PlainCursor where
  takeBlock width cursor :=
    if cursor.remainingBits < width.toNat then none else cursor.shiftIn width.toNat 0

instance : BitSource PlainCursor where
  next cursor := cursor.nextBit.map fun step => (step.1 == 1, step.2)
  position := position
  bitsLeft := remainingBits

/-- The cursor at the next byte boundary. -/
def moveToBoundary (cursor : PlainCursor) : PlainCursor :=
  if cursor.bitPosition ≠ 0 then
    { cursor with
      bytePosition := cursor.bytePosition + 1
      bitPosition := 0
      bitPosition_lt := by decide }
  else cursor

/-- The bytes from the next whole byte onward. -/
def remainingBytes (cursor : PlainCursor) : List UInt8 :=
  cursor.data.toList.drop
    (if cursor.bitPosition = 0 then cursor.bytePosition else cursor.bytePosition + 1)

end PlainCursor

/-! ## Writing plain bytes -/

/-- A byte string that is being written; the bits of the last byte that are not written yet are
zeros. -/
structure PlainStore where
  data : Array UInt8 := #[]
  /-- The number of bits of the last byte that are written, or zero if it is full. -/
  bitPosition : UInt8 := 0
deriving DecidableEq, Repr

namespace PlainStore

/-- The bytes with one at their end that is not full; the first bit of a byte opens it. -/
def opened (store : PlainStore) : Array UInt8 :=
  if store.bitPosition = 0 then store.data.push 0 else store.data

/-- Writes one bit. -/
def push (store : PlainStore) (bit : Bool) : PlainStore where
  data :=
    if bit then
      store.opened.modify (store.opened.size - 1) (· ||| 1 <<< (7 - store.bitPosition))
    else store.opened
  bitPosition := (store.bitPosition + 1) % 8

/-- Writes the low bits of a number, the most significant one first. -/
def shiftOut (value : UInt32) : Nat → PlainStore → PlainStore
  | 0, store => store
  | count + 1, store =>
      shiftOut value count (store.push ((value >>> UInt32.ofNat count) &&& 1 != 0))

instance : BlockSink PlainStore where
  putBlock value width := shiftOut value width.toNat

instance : BitSink PlainStore where
  push := push
  bitsWritten store :=
    if store.bitPosition = 0 then store.data.size * 8
    else store.data.size * 8 - 8 + store.bitPosition.toNat

end PlainStore

end CodedVideo
