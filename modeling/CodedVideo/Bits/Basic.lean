/-!
# Bit strings

Bit strings are lists of booleans, most significant bit first. They are the view through which
readers and writers are described: a number of a given width, a byte and a sequence of bytes each
have a bit string, and a bit string of any length packs into bytes.
-/

namespace CodedVideo.Bits

/-- The number that a bit string writes. -/
def toNat (bits : List Bool) : Nat :=
  bits.foldl (fun value bit => 2 * value + bit.toNat) 0

/-- The low `width` bits of `value`. -/
def ofNat : Nat → Nat → List Bool
  | 0, _ => []
  | width + 1, value => value.testBit width :: ofNat width value

/-- The eight bits of a byte. -/
def ofByte (byte : UInt8) : List Bool :=
  ofNat 8 byte.toNat

/-- The byte that the low eight bits of a bit string write. -/
def toByte (bits : List Bool) : UInt8 :=
  UInt8.ofNat (toNat bits)

/-- The bits of a sequence of bytes. -/
def ofBytes (bytes : List UInt8) : List Bool :=
  bytes.flatMap ofByte

/-- A bit string of at most eight bits, filled with zeros on the right to a byte. -/
def padToByte (bits : List Bool) : UInt8 :=
  toByte (bits ++ List.replicate (8 - bits.length) false)

/-- Packs `bits` into bytes behind the bits `pending` of a byte that is not full. -/
def packFrom (pending : List Bool) : List Bool → List UInt8
  | [] => if pending.isEmpty then [] else [padToByte pending]
  | bit :: bits =>
      if pending.length = 7 then toByte (pending ++ [bit]) :: packFrom [] bits
      else packFrom (pending ++ [bit]) bits

/-- Packs a bit string into bytes; the last byte is filled with zeros. -/
def pack (bits : List Bool) : List UInt8 :=
  packFrom [] bits

/-- The number of bits that lead from a position to the next byte boundary. -/
def toBoundary (position : Nat) : Nat :=
  (8 - position % 8) % 8

end CodedVideo.Bits
