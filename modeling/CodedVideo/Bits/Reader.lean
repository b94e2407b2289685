import CodedVideo.Bits.Source
import CodedVideo.Error
import CodedVideo.ExpGolomb

/-!
# Bit readers

A reader is a source of bits together with a latch for its first fault: once an operation has
failed, every read answers with that same fault and moves nothing, until the fault is cleared.
A read that fails for want of data leaves the source where it was.
-/

namespace CodedVideo

/-- A source of bits and the fault that stopped it, if any. -/
structure Reader (σ : Type) where
  source : σ
  fault : Option BitFault := none
deriving DecidableEq, Repr

/-- A read: a value or a fault, and in either case the reader behind it. -/
abbrev ReadM (σ : Type) := ExceptT BitFault (StateM (Reader σ))

namespace Reader

variable {σ : Type} [BitSource σ]

/-! ## Position -/

/-- The number of bits read so far. -/
def position (reader : Reader σ) : Nat :=
  BitSource.position reader.source

/-- A bound on the number of bits that can still be read. -/
def bitsLeft (reader : Reader σ) : Nat :=
  BitSource.bitsLeft reader.source

/-- The next bit opens a byte. -/
def isByteAligned (reader : Reader σ) : Bool :=
  reader.position % 8 == 0

/-- Every bit has been read. -/
def atEnd (reader : Reader σ) : Bool :=
  BitSource.atEnd reader.source

/-- How many of `count` elements, each coded in at least `minimumBits` bits, the remaining data
can hold. -/
def capacityFor (count minimumBits : Nat) (reader : Reader σ) : Nat :=
  min count (reader.bitsLeft / max minimumBits 1)

/-! ## Faults -/

omit [BitSource σ] in
/-- Latches a fault unless one is latched already, and answers with the one in effect. -/
def fail {α : Type} (fault : BitFault) : ReadM σ α := fun reader =>
  let inEffect := reader.fault.getD fault
  (.error inEffect, { reader with fault := some inEffect })

omit [BitSource σ] in
/-- Forgets the latched fault, so that reading can go on. -/
def clearFault (reader : Reader σ) : Reader σ :=
  { reader with fault := none }

/-! ## Reads of fixed width -/

/-- Reads `count` bits, at most 32. -/
def readBits (count : Nat) : ReadM σ Nat := fun reader =>
  match reader.fault with
  | some fault => (.error fault, reader)
  | none =>
      if 32 < count then fail (.invalidBitCount count) reader
      else
        match BitSource.take count reader.source with
        | some (bits, rest) => (.ok (Bits.toNat bits), { reader with source := rest })
        | none => fail .unexpectedEnd reader

/-- Reads `count` bits, at most 64; more than 32 are read in two steps. -/
def readWideBits (count : Nat) : ReadM σ Nat :=
  if 64 < count then fail (.invalidBitCount count)
  else if count ≤ 32 then readBits count
  else do
    let high ← readBits (count - 32)
    let low ← readBits 32
    return high <<< 32 + low

/-- Reads one bit as a flag. -/
def readFlag : ReadM σ Bool := do
  return (← readBits 1) == 1

/-! ## Skipping -/

/-- Reads and drops `steps` groups of 32 bits. -/
def skipWords : Nat → ReadM σ Unit
  | 0 => return ()
  | steps + 1 => do
      let _ ← readBits 32
      skipWords steps

/-- Skips `count` bits in groups of 32 and a last group of fewer; the groups in front of one that
fails stay read. -/
def skip (count : Nat) : ReadM σ Unit := do
  skipWords (count / 32)
  if count % 32 ≠ 0 then
    let _ ← readBits (count % 32)

/-- Skips to the next byte boundary. -/
def align : ReadM σ Unit := fun reader =>
  skip (Bits.toBoundary reader.position) reader

/-! ## Exp-Golomb codes -/

/-- Counts the zeros in front of the next one and reads both, given a bound on their number. The
counter is a word of 32 bits, so that it starts again behind as many zeros as such a word can tell
apart. -/
def readZeroRun : Nat → UInt32 → ReadM σ UInt32
  | 0, _ => fail .unexpectedEnd
  | bound + 1, zeros => do
      if (← readBits 1) == 0 then readZeroRun bound (zeros + 1) else return zeros

/-- Reads a code number; codes that open with more than 32 zeros, as they are counted, are refused
behind the zeros and the one. -/
def readCodeNumber : ReadM σ Nat := do
  let zeros ← readZeroRun ((← get).bitsLeft + 1) 0
  if 32 < zeros then fail .codeTooLarge
  else
    let suffix ← readBits zeros.toNat
    return 1 <<< zeros.toNat - 1 + suffix

/-- Reads an unsigned value below `2 ^ 32`. -/
def readUnsigned : ReadM σ Nat := do
  let number ← readCodeNumber
  if number < ExpGolomb.unsignedLimit then return number else fail .codeTooLarge

/-- Reads a signed value of 32 bits. -/
def readSigned : ReadM σ Int := do
  let value := ExpGolomb.toSigned (← readCodeNumber)
  if ExpGolomb.fitsSigned value then return value else fail .codeTooLarge

/-! ## The end of the payload -/

/-- Whether data remains in front of the trailing bits; a reader with a fault has none. -/
def hasMoreData (reader : Reader σ) : Bool :=
  reader.fault.isNone && BitSource.hasMoreData reader.source

/-- Reads zeros up to the end, given a bound on their number. -/
def readZerosToEnd : Nat → ReadM σ Unit
  | 0 => return ()
  | bound + 1 => do
      if (← get).atEnd then return ()
      else if (← readBits 1) == 0 then readZerosToEnd bound
      else fail .invalidTrailingBits

/-- Reads the trailing bits: a one, then zeros up to the end. -/
def readTrailingBits : ReadM σ Unit := do
  if (← readBits 1) == 1 then readZerosToEnd (← get).bitsLeft else fail .invalidTrailingBits

/-! ## Looking ahead -/

/-- What reading `count` bits would give. -/
def peekBits (count : Nat) (reader : Reader σ) : Except BitFault Nat :=
  (readBits count reader).1

end Reader

end CodedVideo
