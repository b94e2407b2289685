import CodedVideo.Bits.Basic
import CodedVideo.Error
import CodedVideo.ExpGolomb

/-!
# Sinks of bits

A sink takes bits one after another. All writes are compositions of that step, and a write that is
refused gives no new sink, so it leaves nothing behind.
-/

namespace CodedVideo

/-- A growing store of bits. -/
class BitSink (σ : Type) where
  /-- The sink with one more bit. -/
  push : σ → Bool → σ
  /-- The number of bits taken so far. -/
  bitsWritten : σ → Nat

namespace BitSink

variable {σ : Type} [BitSink σ]

/-- The sink with `bits` behind what it holds. -/
def append (sink : σ) (bits : List Bool) : σ :=
  bits.foldl push sink

/-- The next bit opens a byte. -/
def isByteAligned (sink : σ) : Bool :=
  bitsWritten sink % 8 == 0

/-- Writes the low `width` bits of `value`, at most 32. -/
def writeBits (value width : Nat) (sink : σ) : Except BitFault σ :=
  if 32 < width then .error (.invalidBitCount width)
  else .ok (append sink (Bits.ofNat width value))

/-- Writes the low `width` bits of `value`, at most 64. -/
def writeWideBits (value width : Nat) (sink : σ) : Except BitFault σ :=
  if 64 < width then .error (.invalidBitCount width)
  else .ok (append sink (Bits.ofNat width value))

/-- Writes one bit. -/
def writeFlag (flag : Bool) (sink : σ) : Except BitFault σ :=
  writeBits flag.toNat 1 sink

/-- Writes the Exp-Golomb code of a code number. -/
def writeCodeNumber (number : Nat) (sink : σ) : Except BitFault σ := do
  let zeros := ExpGolomb.leadingZeros number
  let sink ← writeBits 0 zeros sink
  writeWideBits (number + 1) (zeros + 1) sink

/-- Writes an unsigned value as an Exp-Golomb code. -/
def writeUnsigned (value : Nat) (sink : σ) : Except BitFault σ :=
  writeCodeNumber value sink

/-- Writes a signed value as an Exp-Golomb code. -/
def writeSigned (value : Int) (sink : σ) : Except BitFault σ :=
  writeCodeNumber (ExpGolomb.ofSigned value) sink

/-- Writes zeros up to the next byte boundary. -/
def stuffZeros (sink : σ) : Except BitFault σ :=
  writeBits 0 (Bits.toBoundary (bitsWritten sink)) sink

/-- Writes the trailing bits of a payload: a one, then zeros up to the next byte boundary. -/
def writeTrailingBits (sink : σ) : Except BitFault σ := do
  stuffZeros (← writeFlag true sink)

end BitSink

/-! ## Plain bytes -/

/-- A writer of plain bytes: the bits written so far. -/
structure PlainWriter where
  bits : List Bool := []
deriving DecidableEq, Repr

namespace PlainWriter

instance : BitSink PlainWriter where
  push writer bit := { bits := writer.bits ++ [bit] }
  bitsWritten writer := writer.bits.length

/-- The bytes written so far; the last byte is filled with zeros. -/
def bytes (writer : PlainWriter) : List UInt8 :=
  Bits.pack writer.bits

end PlainWriter

end CodedVideo
