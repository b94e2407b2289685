import CodedVideo.Bits.Sink
import CodedVideo.NalUnit.Emulation

/-!
# Writers of escaped units

An escaped writer emits each byte as soon as its eight bits are there, and an emulation prevention
byte in front of it where the rule asks for one.
-/

namespace CodedVideo

/-- An escaped unit that is being written. -/
structure EscapedWriter where
  /-- The bytes of the unit so far, inserted ones included. -/
  output : Array UInt8 := #[]
  /-- The bits of the byte that is not full yet. -/
  pending : List Bool := []
  /-- The number of zero bytes that were emitted last, counted from the last inserted byte. -/
  zeros : Nat := 0
  /-- The number of payload bytes among the output. -/
  emitted : Nat := 0
  /-- The number of inserted bytes among the output. -/
  escapes : Nat := 0
deriving DecidableEq, Repr

namespace EscapedWriter

/-- Emits a payload byte, behind an inserted byte if need be. -/
def emit (writer : EscapedWriter) (byte : UInt8) : EscapedWriter :=
  if writer.zeros = Emulation.zerosBefore ∧ byte ≤ Emulation.preventionByte then
    { writer with
      output := (writer.output.push Emulation.preventionByte).push byte
      zeros := Emulation.zeroRun 0 byte
      emitted := writer.emitted + 1
      escapes := writer.escapes + 1 }
  else
    { writer with
      output := writer.output.push byte
      zeros := Emulation.zeroRun writer.zeros byte
      emitted := writer.emitted + 1 }

/-- Takes one bit; the eighth bit of a byte emits it. -/
def push (writer : EscapedWriter) (bit : Bool) : EscapedWriter :=
  if writer.pending.length = 7 then
    { writer with pending := [] }.emit (Bits.toByte (writer.pending ++ [bit]))
  else { writer with pending := writer.pending ++ [bit] }

instance : BitSink EscapedWriter where
  push := push
  bitsWritten writer := writer.emitted * 8 + writer.pending.length

/-- The bytes emitted so far. -/
def data (writer : EscapedWriter) : List UInt8 :=
  writer.output.toList

/-- The escaped unit; the last byte is filled with zeros. -/
def finish (writer : EscapedWriter) : List UInt8 :=
  if writer.pending.isEmpty then writer.data
  else ({ writer with pending := [] }.emit (Bits.padToByte writer.pending)).data

end EscapedWriter

end CodedVideo
