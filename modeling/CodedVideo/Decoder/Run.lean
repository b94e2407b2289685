import CodedVideo.Decoder.Basic
import CodedVideo.NalUnit.EscapedSource

/-!
# Running decoders

A run answers the questions of a decoder from a reader. It gives a value or an error, and in either
case the reader as it stands at the end.
-/

namespace CodedVideo

/-- Answers one question. -/
def Query.answer {σ : Type} [BitSource σ] {α : Type} : Query α → ReadM σ α
  | bits count => Reader.readBits count
  | wideBits count => Reader.readWideBits count
  | flag => Reader.readFlag
  | unsigned => Reader.readUnsigned
  | signed => Reader.readSigned
  | skip count => Reader.skip count
  | align => Reader.align
  | position => fun reader => (.ok reader.position, reader)
  | hasMoreData => fun reader => (.ok reader.hasMoreData, reader)
  | trailingBits => Reader.readTrailingBits

namespace Decoder

variable {σ : Type} [BitSource σ]

/-- Runs the entries of a series, given a bound on their number. Each entry reads at least one bit,
so the bits that are left bound the number of entries. -/
def runSeries {β : Type} (entry : Nat → Reader σ → Except Error (Option β) × Reader σ) :
    Nat → List β → Reader σ → Except Error (List β) × Reader σ
  | 0, _, reader => (.error (.unlocated .unexpectedEnd), reader)
  | bound + 1, values, reader =>
      match Reader.readUnsigned reader with
      | (.error fault, stopped) => (.error (.unlocated fault), stopped)
      | (.ok code, opened) =>
          match entry code opened with
          | (.error error, stopped) => (.error error, stopped)
          | (.ok none, last) => (.ok values.reverse, last)
          | (.ok (some value), closed) => runSeries entry bound (value :: values) closed

/-- Runs a decoder on a reader. -/
def run {α : Type} : Decoder α → Reader σ → Except Error α × Reader σ
  | done value, reader => (.ok value, reader)
  | abort error, reader => (.error error, reader)
  | ask query next, reader =>
      match query.answer reader with
      | (.ok answer, rest) => (next answer).run rest
      | (.error fault, stopped) => (.error (.unlocated fault), stopped)
  | within structureName offset part next, reader =>
      match part.run reader with
      | (.ok value, rest) => (next value).run rest
      | (.error error, stopped) =>
          (.error (error.locate structureName (offset.getD stopped.position)), stopped)
  | series entry next, reader =>
      match runSeries (fun code => (entry code).run) (reader.bitsLeft + 1) [] reader with
      | (.ok values, rest) => (next values).run rest
      | (.error error, stopped) => (.error error, stopped)

/-- Decodes an escaped unit from its first bit. -/
def decodeUnit {α : Type} (decoder : Decoder α) (unit : List UInt8) : Except Error α :=
  (decoder.run (EscapedReader.ofUnit unit)).1

/-- Decodes an escaped unit whose decoder can stop on purpose: next to the value it gives the error
at which it stopped, if it did. -/
def decodeUnitPartly {α : Type} (decoder : Decoder (α × Option Error)) (unit : List UInt8) :
    Except (Interruption α) α :=
  match decoder.decodeUnit unit with
  | .ok (value, none) => .ok value
  | .ok (value, some error) => .error (.stopped value error)
  | .error error => .error (.failed error)

end Decoder

end CodedVideo
