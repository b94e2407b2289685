/-!
# Buffers of bits

Between two bytes a reader or a writer keeps bits in a word of 64 bits, the last one in its lowest
place. Bits are put behind the others by a shift to the left, and the first ones are taken by a shift
to the right and a mask.
-/

namespace CodedVideo

/-- The word whose low `width` bits are ones. -/
def lowMask (width : UInt8) : UInt64 :=
  if 64 ≤ width then 0xffffffffffffffff else (1 <<< width.toUInt64) - 1

/-- Bits that wait in a word. -/
structure BitBuffer where
  /-- The word; above the bits that wait it is zero. -/
  accumulator : UInt64 := 0
  /-- The number of bits that wait. -/
  count : UInt8 := 0
deriving DecidableEq, Repr

namespace BitBuffer

/-- The buffer with the `width` bits of `value` behind the others. -/
def push (value : UInt64) (width : UInt8) (buffer : BitBuffer) : BitBuffer where
  accumulator := buffer.accumulator <<< width.toUInt64 ||| value
  count := buffer.count + width

/-- The first `width` bits, and the buffer behind them. -/
def take (width : UInt8) (buffer : BitBuffer) : UInt64 × BitBuffer :=
  let count := buffer.count - width
  ((buffer.accumulator >>> count.toUInt64) &&& lowMask width,
    { accumulator := buffer.accumulator &&& lowMask count, count })

/-- The bits, filled with zeros on the right to a byte. -/
def padToByte (buffer : BitBuffer) : UInt8 :=
  (buffer.accumulator <<< (8 - buffer.count).toUInt64).toUInt8

end BitBuffer

end CodedVideo
