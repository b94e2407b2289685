import CodedVideo.Decoder.Run

/-!
# Decoding in stages

A unit can be decoded in stages, so that the place that the reader has reached in the stored bytes
can be noted between them.
-/

namespace CodedVideo

/-- What is done with a reader of an escaped unit, stage after stage. -/
abbrev Staged := ExceptT Error (StateM EscapedReader)

namespace Staged

/-- A stage that runs a decoder. -/
def decode {α : Type} (decoder : Decoder α) : Staged α := fun reader =>
  decoder.run reader

/-- The number of stored bytes that were read so far. -/
def bytesRead : Staged Nat := fun reader =>
  (.ok reader.bytesRead, reader)

/-- Runs all stages on a unit, from its first bit. -/
def onUnit {α : Type} (stages : Staged α) (unit : List UInt8) : Except Error α :=
  (stages (EscapedReader.ofUnit unit)).1

end Staged

end CodedVideo
