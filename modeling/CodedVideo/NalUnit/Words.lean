import CodedVideo.Bits.Words
import CodedVideo.NalUnit.EscapedSource
import CodedVideo.NalUnit.EscapedWriter

/-!
# Escaped units in words

A reader of an escaped unit loads bytes into a buffer until it holds enough bits, and drops the
emulation prevention bytes as it goes. A writer puts bits into a buffer and emits its bytes as soon as
they are full. Both count the zero bytes in a byte that stays at its greatest value.
-/

namespace CodedVideo

/-- The length of the zero run that ends in `byte`, as a number that stays at 255. -/
def Emulation.zeroRunInByte (zeros byte : UInt8) : UInt8 :=
  if byte = 0 then (if zeros = 255 then 255 else zeros + 1) else 0

/-! ## Reading -/

/-- A place in an escaped unit. -/
structure EscapedCursor where
  data : Array UInt8
  /-- The number of stored bytes that are loaded, inserted ones included. -/
  loaded : Nat := 0
  /-- The bits that are loaded but not handed out yet. -/
  buffer : BitBuffer := {}
  /-- The number of zero payload bytes that were loaded last. -/
  zeros : UInt8 := 0
  /-- The number of inserted bytes that are loaded. -/
  escapes : Nat := 0
deriving DecidableEq, Repr

namespace EscapedCursor

/-- Passes over an inserted byte if one stands next. -/
def passEscape (cursor : EscapedCursor) : EscapedCursor :=
  if cursor.zeros = 2 ∧ cursor.data[cursor.loaded]? = some Emulation.preventionByte then
    { cursor with loaded := cursor.loaded + 1, escapes := cursor.escapes + 1, zeros := 0 }
  else cursor

/-- Loads the next payload byte into the buffer and passes over an inserted byte behind it. -/
def loadByte (cursor : EscapedCursor) : Option EscapedCursor :=
  match cursor.data[cursor.loaded]? with
  | none => none
  | some byte =>
      some (passEscape
        { cursor with
          loaded := cursor.loaded + 1
          buffer := cursor.buffer.push byte.toUInt64 8
          zeros := Emulation.zeroRunInByte cursor.zeros byte })

theorem lt_of_loadByte {cursor rest : EscapedCursor} (load_eq : cursor.loadByte = some rest) :
    rest.data = cursor.data ∧ cursor.loaded < cursor.data.size ∧ cursor.loaded < rest.loaded := by
  unfold loadByte at load_eq
  split at load_eq
  · cases load_eq
  · next byte byte_eq =>
      cases load_eq
      obtain ⟨isInside, -⟩ := Array.getElem?_eq_some_iff.mp byte_eq
      unfold passEscape
      split
      · exact ⟨rfl, isInside, Nat.lt_add_of_pos_right Nat.zero_lt_two⟩
      · exact ⟨rfl, isInside, Nat.lt_succ_self _⟩

/-- Loads bytes until `width` bits wait; nothing if the unit ends in front of them. -/
def refill (width : UInt8) (cursor : EscapedCursor) : Option EscapedCursor :=
  if cursor.buffer.count < width then
    match _load_eq : cursor.loadByte with
    | none => none
    | some rest => refill width rest
  else some cursor
termination_by cursor.data.size - cursor.loaded
decreasing_by
  obtain ⟨data_eq, isInside, isBehind⟩ := lt_of_loadByte _load_eq
  rw [data_eq]
  omega

instance : BlockSource EscapedCursor where
  takeBlock width cursor :=
    if width = 0 then some (0, cursor)
    else
      match cursor.refill width with
      | none => none
      | some filled =>
          let (value, buffer) := filled.buffer.take width
          some (value.toUInt32, { filled with buffer })

/-- The number of bits handed out so far. -/
def position (cursor : EscapedCursor) : Nat :=
  (cursor.loaded - cursor.escapes) * 8 - cursor.buffer.count.toNat

/-- A bound on the number of bits that can still be handed out. -/
def bitsLeft (cursor : EscapedCursor) : Nat :=
  (cursor.data.size - cursor.loaded) * 8 + cursor.buffer.count.toNat

instance : BitSource EscapedCursor where
  next cursor := (BlockSource.takeBlock 1 cursor).map fun step => (step.1 == 1, step.2)
  position := position
  bitsLeft := bitsLeft

/-- The number of bits read from the byte that is being read. -/
def bitsReadOfByte (cursor : EscapedCursor) : UInt8 :=
  if cursor.buffer.count = 0 then 0 else 8 - cursor.buffer.count

/-- Every bit of the unit has been handed out. -/
def isExhausted (cursor : EscapedCursor) : Bool :=
  cursor.buffer.count == 0 && decide (cursor.data.size ≤ cursor.loaded)

end EscapedCursor

/-! ## Writing -/

/-- An escaped unit that is being written. -/
structure EscapedStore where
  /-- The bytes of the unit so far, inserted ones included. -/
  output : Array UInt8 := #[]
  /-- The bits of the byte that is not full yet. -/
  buffer : BitBuffer := {}
  /-- The number of zero bytes that were emitted last, counted from the last inserted byte. -/
  zeros : UInt8 := 0
  /-- The number of payload bytes among the output. -/
  emitted : Nat := 0
  /-- The number of inserted bytes among the output. -/
  escapes : Nat := 0
deriving DecidableEq, Repr

namespace EscapedStore

/-- Puts an inserted byte in front of a payload byte that asks for one. -/
def escape (byte : UInt8) (store : EscapedStore) : EscapedStore :=
  if store.zeros = 2 ∧ byte ≤ Emulation.preventionByte then
    { store with
      output := store.output.push Emulation.preventionByte
      zeros := 0
      escapes := store.escapes + 1 }
  else store

/-- Emits a payload byte, behind an inserted byte if need be. -/
def emit (byte : UInt8) (store : EscapedStore) : EscapedStore :=
  let escaped := store.escape byte
  { escaped with
    output := escaped.output.push byte
    zeros := Emulation.zeroRunInByte escaped.zeros byte
    emitted := escaped.emitted + 1 }

theorem emit_buffer (byte : UInt8) (store : EscapedStore) :
    (store.emit byte).buffer = store.buffer := by
  unfold emit escape
  split <;> rfl

/-- Emits the bytes that are full. -/
def flush (store : EscapedStore) : EscapedStore :=
  if 8 ≤ store.buffer.count then
    let taken := store.buffer.take 8
    flush ({ store with buffer := taken.2 }.emit taken.1.toUInt8)
  else store
termination_by store.buffer.count.toNat
decreasing_by
  next isFull =>
    have count_eq : (store.buffer.take 8).2.count.toNat = store.buffer.count.toNat - 8 :=
      UInt8.toNat_sub_of_le _ _ isFull
    rw [emit_buffer, count_eq]
    rw [UInt8.le_iff_toNat_le] at isFull
    exact Nat.sub_lt (Nat.lt_of_lt_of_le (by decide) isFull) (by decide)

instance : BlockSink EscapedStore where
  putBlock value width store :=
    flush { store with buffer := store.buffer.push (value.toUInt64 &&& lowMask width) width }

instance : BitSink EscapedStore where
  push store bit := BlockSink.putBlock (if bit then 1 else 0) 1 store
  bitsWritten store := store.emitted * 8 + store.buffer.count.toNat

/-- The bytes emitted so far. -/
def data (store : EscapedStore) : List UInt8 :=
  store.output.toList

/-- The escaped unit; the last byte is filled with zeros. -/
def finish (store : EscapedStore) : List UInt8 :=
  if 0 < store.buffer.count then
    ({ store with buffer := { store.buffer with count := 0 } }.emit store.buffer.padToByte).data
  else store.data

end EscapedStore

end CodedVideo
