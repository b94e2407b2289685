import CodedVideo.Bits.Reader

/-!
# Plain bytes

A plain source hands out the bits of a byte string as they are stored.
-/

namespace CodedVideo

/-- The bits of a byte string that are not handed out yet, and how many were. -/
structure PlainSource where
  position : Nat
  unread : List Bool
deriving DecidableEq, Repr

namespace PlainSource

/-- The source in front of the first bit. -/
def ofBytes (bytes : List UInt8) : PlainSource :=
  { position := 0, unread := Bits.ofBytes bytes }

/-- The next bit. -/
def next : PlainSource → Option (Bool × PlainSource)
  | { unread := [], .. } => none
  | { position, unread := bit :: unread } => some (bit, { position := position + 1, unread })

instance : BitSource PlainSource where
  next := next
  position := position
  bitsLeft source := source.unread.length

/-- The source behind the next `count` bits, or at the end if there are fewer. -/
def drop (count : Nat) (source : PlainSource) : PlainSource :=
  { position := source.position + min count source.unread.length
    unread := source.unread.drop count }

end PlainSource

/-- A reader of plain bytes. -/
abbrev PlainReader := Reader PlainSource

namespace PlainReader

/-- A reader in front of the first bit of `bytes`. -/
def ofBytes (bytes : List UInt8) : PlainReader :=
  { source := PlainSource.ofBytes bytes }

/-- The number of bits that were there at the start. -/
def totalBits (reader : PlainReader) : Nat :=
  reader.source.position + reader.source.unread.length

/-- Moves to the next byte boundary, whatever fault is latched. -/
def moveToBoundary (reader : PlainReader) : PlainReader :=
  { reader with source := reader.source.drop (Bits.toBoundary reader.source.position) }

/-- The bytes from the next whole byte onward. -/
def remainingBytes (reader : PlainReader) : List UInt8 :=
  Bits.pack reader.moveToBoundary.source.unread

end PlainReader

end CodedVideo
