import CodedVideo.Proofs.CodedField
import CodedVideo.Proofs.NalUnit.EscapedWriter
import CodedVideo.Proofs.NalUnit.Payload

/-!
# Reading written fields back from an escaped unit

Fields that are written to an escaped unit and closed by the trailing bits are the payload of that
unit. So they are read back as from plain bytes, and the reader knows at each field whether another
one follows.

Main statement: `writeAll_readAll`.
-/

namespace CodedVideo

namespace CodedField

section

variable {σ τ : Type} [BitSource σ] [BitSource τ] [FiniteSource σ] [FiniteSource τ]
  {related : σ → τ → Prop} (inStep : InStep False related)

include inStep

/-- A field is read alike. -/
theorem read_alike (field : CodedField) {first : Reader σ} {second : Reader τ}
    (readers : ReadersRelated related first second) :
    ReadAlike False related (field.read first) (field.read second) := by
  cases field with
  | bits value width => exact Reader.map_alike (Reader.readBits_alike inStep readers width) _
  | wideBits value width =>
      exact Reader.map_alike (Reader.readWideBits_alike inStep readers width) _
  | flag value => exact Reader.map_alike (Reader.readFlag_alike inStep readers) _
  | unsigned value => exact Reader.map_alike (Reader.readUnsigned_alike inStep readers) _
  | signed value => exact Reader.map_alike (Reader.readSigned_alike inStep readers) _
  | alignment => exact Reader.map_alike (Reader.align_alike inStep readers) _
  | trailing => exact Reader.map_alike (Reader.readTrailingBits_alike inStep readers) _

/-- Fields in a row are read alike. -/
theorem readAll_alike (fields : List CodedField) {first : Reader σ} {second : Reader τ}
    (readers : ReadersRelated related first second) :
    ReadAlike False related (readAll fields first) (readAll fields second) := by
  induction fields generalizing first second with
  | nil => exact Reader.pure_alike readers []
  | cons field fields inductionHypothesis =>
      apply Reader.bind_alike (field.read_alike inStep readers)
      intro value firstRest secondRest _ _ rests
      apply Reader.bind_alike (inductionHypothesis rests)
      intro values firstLast secondLast _ _ lasts
      exact Reader.pure_alike lasts (value :: values)

end

end CodedField

namespace EscapedReader

open PlainReader (before)

variable {unit : List UInt8}

/-- What is read from the payload is read from the unit. -/
theorem PayloadRelated.read {escaped : EscapedReader} {plain last : PlainReader}
    {α : Type} {part : ReadM EscapedSource α} {plainPart : ReadM PlainSource α} {value : α}
    (alike : ReadAlike False (fun source payload => source.ValidIn unit ∧ source.payload = payload)
      (part escaped) (plainPart plain))
    (ended : plainPart plain = (.ok value, last)) :
    ∃ reader, part escaped = (.ok value, reader) ∧ PayloadRelated unit reader last := by
  rcases alike.together with ⟨result_eq, rests⟩
  rw [ended] at result_eq rests
  exact ⟨(part escaped).2, Prod.ext result_eq rfl, rests⟩

/-- At the end of the payload the whole unit is read. -/
theorem PayloadRelated.whole_unit {reader : EscapedReader} {position : Nat}
    (readers : PayloadRelated unit reader (before position [])) :
    reader.atEnd = true ∧ reader.bytesRead = unit.length ∧
      reader.escapesRemoved = Emulation.count unit := by
  rcases readers.sources with ⟨valid, payload_eq⟩
  have unread_eq : reader.source.unread = [] := congrArg PlainSource.unread payload_eq
  have atEnd : BitSource.next reader.source = none := valid.unread_eq_nil_iff.mp unread_eq
  rcases valid.front_eq atEnd with ⟨loaded_eq, front_eq⟩
  have escapes_eq : reader.escapesRemoved = Emulation.count unit := by
    rw [escapesRemoved, valid.escapes_eq, front_eq]
  exact ⟨congrArg Option.isNone atEnd, loaded_eq, escapes_eq⟩

end EscapedReader

namespace CodedField

open PlainReader (before)
open EscapedReader (PayloadRelated)

/-- Written fields and the trailing bits behind them are the payload of the finished unit. -/
theorem writeAll_payload {fields : List CodedField} (fit : ∀ field ∈ fields, field.Fits) :
    ∃ written writer : EscapedWriter,
      writeAll fields {} = .ok written ∧ BitSink.writeTrailingBits written = .ok writer ∧
        BitSink.bitsWritten written = (codeAll fields 0).length ∧
        Emulation.count writer.finish = writer.escapes ∧
        ∃ zeros, Bits.ofBytes (Emulation.remove writer.finish) =
          codeAll fields 0 ++ true :: List.replicate zeros false := by
  have written_eq := writeAll_eq fit ({} : EscapedWriter)
  have holds := EscapedWriter.holds_nil.append (codeAll fields 0)
  have counted := holds.bitsWritten_eq
  rw [List.nil_append] at holds counted
  have writer_eq :=
    BitSink.writeTrailingBits_eq (BitSink.append ({} : EscapedWriter) (codeAll fields 0))
  rw [counted] at writer_eq
  have finished := (holds.append
    (true :: List.replicate (Bits.toBoundary ((codeAll fields 0).length + 1)) false)).finish (by
      simp only [List.length_append, List.length_cons, List.length_replicate, Bits.toBoundary]
      omega)
  exact ⟨_, _, written_eq, writer_eq, counted, finished.2, _, finished.1⟩

/-- Fields that open the payload of a unit are read back from the unit. -/
theorem readAll_front {unit : List UInt8} {front : List CodedField} {rest : List Bool}
    (fit : ∀ field ∈ front, field.Fits) (notLast : trailing ∉ front)
    (payload_eq : Bits.ofBytes (Emulation.remove unit) = codeAll front 0 ++ rest) :
    ∃ reader, readAll front (EscapedReader.ofUnit unit) = (.ok (front.map kept), reader) ∧
      PayloadRelated unit reader (before (codeAll front 0).length rest) := by
  have plain_eq : PlainReader.ofBytes (Emulation.remove unit) =
      before 0 (codeAll front 0 ++ rest) := by
    rw [PlainReader.ofBytes, PlainSource.ofBytes, payload_eq]
    rfl
  have readers := EscapedReader.payloadRelated_ofUnit unit
  have ended := readAll_before fit notLast 0 rest
  rw [Nat.zero_add] at ended
  rw [plain_eq] at readers
  exact PayloadRelated.read (readAll_alike (EscapedSource.inStep_payload unit) front readers) ended

/-- Fields that are written to an escaped unit and closed by the trailing bits are read back from
it, each with the value that its form keeps. In front of each field, and behind the last one, there
is more data exactly if a bit of a field is unread. Behind the last field the trailing bits end the
unit: all its bytes are read, the inserted ones are those that the writer has counted, and no bit
follows. -/
theorem writeAll_readAll (fields : List CodedField) (fit : ∀ field ∈ fields, field.Fits)
    (notLast : trailing ∉ fields) :
    ∃ written writer : EscapedWriter,
      writeAll fields {} = .ok written ∧ BitSink.writeTrailingBits written = .ok writer ∧
        (∀ front back, fields = front ++ back →
          ∃ reader,
            readAll front (EscapedReader.ofUnit writer.finish) =
                (.ok (front.map kept), reader) ∧
              (reader.hasMoreData = true ↔ reader.position < BitSink.bitsWritten written)) ∧
        ∃ reader last : EscapedReader,
          readAll fields (EscapedReader.ofUnit writer.finish) =
              (.ok (fields.map kept), reader) ∧
            reader.hasMoreData = false ∧
            Reader.readTrailingBits reader = (.ok (), last) ∧
            last.atEnd = true ∧
            last.bytesRead = writer.finish.length ∧
            last.escapesRemoved = writer.escapes ∧
            (Reader.readBits 1 last).1 = .error .unexpectedEnd := by
  obtain ⟨written, writer, written_eq, writer_eq, counted, escapes_eq, zeros, payload_eq⟩ :=
    writeAll_payload fit
  have inStep := EscapedSource.inStep_payload writer.finish
  -- What holds in front of each field holds in front of the trailing bits, where no field is left.
  have fronts (front back : List CodedField) (parts : fields = front ++ back) :
      ∃ reader, readAll front (EscapedReader.ofUnit writer.finish) =
          (.ok (front.map kept), reader) ∧
        PayloadRelated writer.finish reader (before (codeAll front 0).length
          (codeAll back (codeAll front 0).length ++ true :: List.replicate zeros false)) := by
    subst parts
    apply readAll_front
    · intro field isFront
      exact fit field (List.mem_append_left back isFront)
    · intro isFront
      exact notLast (List.mem_append_left back isFront)
    · rw [payload_eq, codeAll_append, List.append_assoc, Nat.zero_add]
  refine ⟨written, writer, written_eq, writer_eq, ?_, ?_⟩
  · intro front back parts
    obtain ⟨reader, read_eq, readers⟩ := fronts front back parts
    have more_iff : reader.hasMoreData = true ↔
        reader.position < BitSink.bitsWritten written := by
      rw [Reader.hasMoreData_related inStep readers, Reader.hasMoreData_before,
        Reader.position_related inStep readers, counted, parts, codeAll_append,
        List.length_append, Nat.zero_add]
      change _ ↔ (codeAll front 0).length < _
      rw [← List.length_pos_iff]
      omega
    exact ⟨reader, read_eq, more_iff⟩
  · obtain ⟨reader, read_eq, readers⟩ := fronts fields [] (List.append_nil fields).symm
    have noMore := Reader.hasMoreData_before (codeAll fields 0).length [] zeros
    obtain ⟨last, trailing_eq, lasts⟩ := PayloadRelated.read
      (Reader.readTrailingBits_alike inStep readers)
      (Reader.readTrailingBits_before (codeAll fields 0).length zeros)
    rcases lasts.whole_unit with ⟨atEnd, bytes_eq, removed_eq⟩
    have noField : reader.hasMoreData = false := by
      rw [Reader.hasMoreData_related inStep readers]
      simpa [codeAll] using noMore
    have noBit : (Reader.readBits 1 last).1 = .error .unexpectedEnd :=
      (Reader.readBits_alike inStep lasts 1).together.1
    exact ⟨reader, last, read_eq, noField, trailing_eq, atEnd, bytes_eq,
      removed_eq.trans escapes_eq, noBit⟩

/-- The widest fields of each form are read back, behind one that does not keep its whole value. -/
theorem writeAll_readAll_widest :
    ∃ (written writer : EscapedWriter) (reader : EscapedReader),
      writeAll [.bits 300 8, .bits 0 32, .wideBits 1 64, .flag true, .unsigned 4294967295,
          .signed (-2147483648)] {} = .ok written ∧
        BitSink.writeTrailingBits written = .ok writer ∧
        readAll [.bits 300 8, .bits 0 32, .wideBits 1 64, .flag true, .unsigned 4294967295,
            .signed (-2147483648)] (EscapedReader.ofUnit writer.finish) =
          (.ok [.bits 44 8, .bits 0 32, .wideBits 1 64, .flag true, .unsigned 4294967295,
            .signed (-2147483648)], reader) ∧
        reader.hasMoreData = false := by
  obtain ⟨written, writer, written_eq, writer_eq, _, reader, last, read_eq, noMore, _⟩ :=
    writeAll_readAll [.bits 300 8, .bits 0 32, .wideBits 1 64, .flag true, .unsigned 4294967295,
      .signed (-2147483648)] (by decide) (by decide)
  exact ⟨written, writer, reader, written_eq, writer_eq, read_eq, noMore⟩

end CodedField

end CodedVideo
