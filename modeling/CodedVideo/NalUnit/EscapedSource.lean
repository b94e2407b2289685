import CodedVideo.Bits.Reader
import CodedVideo.NalUnit.Emulation

/-!
# Escaped units as sources of bits

The source of an escaped unit drops the emulation prevention bytes as it goes. It loads one byte
at a time, together with an inserted byte that follows, so that the end of the unit is reached
with the last bit of the payload.
-/

namespace CodedVideo

/-- A position inside an escaped unit. -/
structure EscapedSource where
  /-- The whole unit, as stored. -/
  unit : List UInt8
  /-- The stored bytes that are not loaded yet. -/
  rest : List UInt8
  /-- The number of stored bytes that are loaded, inserted ones included. -/
  loaded : Nat
  /-- The number of inserted bytes among them. -/
  escapes : Nat
  /-- The number of zero payload bytes that were loaded last. -/
  zeros : Nat
  /-- The bits of the last payload byte that are not handed out yet. -/
  pending : List Bool
deriving DecidableEq, Repr

namespace EscapedSource

/-- The source in front of the first bit. -/
def ofUnit (unit : List UInt8) : EscapedSource :=
  { unit, rest := unit, loaded := 0, escapes := 0, zeros := 0, pending := [] }

/-- Passes over an inserted byte if one stands next. -/
def passEscape (source : EscapedSource) : EscapedSource :=
  match source.rest with
  | byte :: rest =>
      if source.zeros = Emulation.zerosBefore ∧ byte = Emulation.preventionByte then
        { source with
          rest := rest
          loaded := source.loaded + 1
          escapes := source.escapes + 1
          zeros := 0 }
      else source
  | [] => source

/-- Loads the next payload byte and passes over an inserted byte behind it. -/
def loadByte (source : EscapedSource) : Option (UInt8 × EscapedSource) :=
  match source.rest with
  | [] => none
  | byte :: rest =>
      some (byte, passEscape
        { source with
          rest := rest
          loaded := source.loaded + 1
          zeros := Emulation.zeroRun source.zeros byte })

/-- The next bit of the payload. -/
def next (source : EscapedSource) : Option (Bool × EscapedSource) :=
  match source.pending with
  | bit :: pending => some (bit, { source with pending })
  | [] =>
      match source.loadByte with
      | none => none
      | some (byte, loadedSource) =>
          match Bits.ofByte byte with
          | bit :: pending => some (bit, { loadedSource with pending })
          | [] => none

instance : BitSource EscapedSource where
  next := next
  position source := (source.loaded - source.escapes) * 8 - source.pending.length
  bitsLeft source := source.rest.length * 8 + source.pending.length

end EscapedSource

/-- A reader of an escaped unit. -/
abbrev EscapedReader := Reader EscapedSource

namespace EscapedReader

/-- A reader in front of the first bit of an escaped unit. -/
def ofUnit (unit : List UInt8) : EscapedReader :=
  { source := EscapedSource.ofUnit unit }

/-- The unit that is read, as stored. -/
def unit (reader : EscapedReader) : List UInt8 :=
  reader.source.unit

/-- The number of stored bytes of which a bit was read, inserted bytes included. -/
def bytesRead (reader : EscapedReader) : Nat :=
  reader.source.loaded

/-- The number of bits read from the byte that is being read. -/
def bitsReadOfByte (reader : EscapedReader) : Nat :=
  if reader.source.pending.isEmpty then 0 else 8 - reader.source.pending.length

/-- The number of inserted bytes that were passed over. -/
def escapesRemoved (reader : EscapedReader) : Nat :=
  reader.source.escapes

end EscapedReader

end CodedVideo
