import CodedVideo.Proofs.Decoder.ReadsBack
import CodedVideo.Proofs.NalUnit.EscapedWriter
import CodedVideo.Proofs.NalUnit.Payload

/-!
# Decoding written units

Fields that are written to a unit are the front of its payload. So a decoder that reads fields back
gives their value for the unit, whatever fields are written behind them.
-/

namespace CodedVideo

namespace CodedField

/-- A writer of fields that is finished gives the escaped bits of the fields. -/
theorem finish_writeAll {fields : List CodedField} {written : EscapedWriter}
    (fit : ∀ field ∈ fields, field.Fits) (written_eq : writeAll fields {} = .ok written) :
    written.finish = Emulation.insert (Bits.pack (codeAll fields 0)) := by
  have holds := EscapedWriter.holds_nil.append (codeAll fields 0)
  obtain ⟨payload, finish_eq, payload_eq⟩ := holds.finish_padded
  have packed_eq : payload = Bits.pack (codeAll fields 0) := by
    apply Bits.ofBytes_inj
    rw [payload_eq, Bits.ofBytes_pack]
    rfl
  rw [writeAll_eq fit] at written_eq
  cases written_eq
  rw [← packed_eq]
  exact finish_eq

/-- The unit of fields is that of their bits. -/
theorem toUnit_eq {fields : List CodedField} (fit : ∀ field ∈ fields, field.Fits) :
    toUnit fields = .ok (Emulation.insert (Bits.pack (codeAll fields 0))) := by
  have written_eq := writeAll_eq fit ({} : EscapedWriter)
  rw [toUnit, written_eq]
  exact congrArg Except.ok (finish_writeAll fit written_eq)

/-- Bits fit as flags. -/
theorem fits_of_mem_map_flag (bits : List Bool) : ∀ field ∈ bits.map flag, field.Fits := by
  rw [List.forall_mem_map]
  exact fun _ _ => trivial

/-- Exact fields are written in two parts, and as many bits are written as the fields have. -/
theorem exists_writeAll_parts {front back : List CodedField}
    (exact : ∀ field ∈ front ++ back, field.Exact) :
    ∃ opened written : EscapedWriter,
      writeAll front {} = .ok opened ∧ writeAll back opened = .ok written ∧
        BitSink.bitsWritten opened = (codeAll front 0).length ∧
        BitSink.bitsWritten written = (codeAll (front ++ back) 0).length := by
  have fit : ∀ field ∈ front ++ back, field.Fits := fun field isThere => (exact field isThere).1
  rw [List.forall_mem_append] at fit
  have opened_eq := writeAll_eq fit.1 ({} : EscapedWriter)
  have openedBits :
      BitSink.bitsWritten (BitSink.append ({} : EscapedWriter) (codeAll front 0)) =
        (codeAll front 0).length := by
    rw [BitSink.bitsWritten_append]
    exact Nat.zero_add _
  refine ⟨_, _, opened_eq, writeAll_eq fit.2 _, openedBits, ?_⟩
  rw [BitSink.bitsWritten_append, codeAll_append, List.length_append, Nat.zero_add]
  exact congrArg (fun position => position + (codeAll back position).length) openedBits

/-! ## Units that are cut behind trailing bits -/

/-- Fields that end in trailing bits are packed without padding, and their last byte is not zero. -/
theorem packed_trailing (fields : List CodedField) :
    Bits.ofBytes (Bits.pack (codeAll (fields ++ [.trailing]) 0)) =
        codeAll (fields ++ [.trailing]) 0 ∧
      ∃ last, (Bits.pack (codeAll (fields ++ [.trailing]) 0)).getLast? = some last ∧ last ≠ 0 := by
  have bits_eq : codeAll (fields ++ [.trailing]) 0 = codeAll fields 0 ++
      true :: List.replicate (Bits.toBoundary ((codeAll fields 0).length + 1)) false := by
    rw [codeAll_append, Nat.zero_add, codeAll, codeAll, code, List.append_nil]
  have noPadding : Bits.toBoundary (codeAll (fields ++ [.trailing]) 0).length = 0 := by
    rw [bits_eq, List.length_append, List.length_cons, List.length_replicate]
    simp only [Bits.toBoundary]
    omega
  have packed := Bits.ofBytes_pack (codeAll (fields ++ [.trailing]) 0)
  rw [noPadding, List.replicate_zero, List.append_nil] at packed
  refine ⟨packed, ?_⟩
  exact Bits.exists_getLast?_of_ofBytes_eq (Nat.mod_lt _ (by decide)) (packed.trans bits_eq)

/-- The unit of such fields is read as their bits and no more. -/
theorem exists_toUnit_trailing {fields : List CodedField}
    (fit : ∀ field ∈ fields ++ [.trailing], field.Fits) :
    ∃ unit, toUnit (fields ++ [.trailing]) = .ok unit ∧
      PlainReader.ofBytes (Emulation.remove unit) =
        PlainReader.before 0 (codeAll (fields ++ [.trailing]) 0) := by
  refine ⟨_, toUnit_eq fit, ?_⟩
  rw [Emulation.remove_insert, PlainReader.ofBytes, PlainSource.ofBytes, (packed_trailing fields).1]
  rfl

/-- The finished unit of such fields has their bits as its payload, and behind it no zeros are
counted. -/
theorem finish_trailing {fields : List CodedField} {written : EscapedWriter}
    (fit : ∀ field ∈ fields ++ [.trailing], field.Fits)
    (written_eq : writeAll (fields ++ [.trailing]) {} = .ok written) :
    Bits.ofBytes (Emulation.remove written.finish) = codeAll (fields ++ [.trailing]) 0 ∧
      Emulation.zerosBehind 0 written.finish = 0 := by
  obtain ⟨packed, last, ends, notZero⟩ := packed_trailing fields
  rw [← Emulation.remove_insert (Bits.pack _), ← finish_writeAll fit written_eq] at packed ends
  exact ⟨packed, Emulation.zerosBehind_eq_zero ends notZero⟩

/-- What is written behind such fields is escaped on its own, behind their finished unit. -/
theorem toUnit_append_trailing {fields back : List CodedField} {written : EscapedWriter}
    (fit : ∀ field ∈ fields ++ [.trailing] ++ back, field.Fits)
    (written_eq : writeAll (fields ++ [.trailing]) {} = .ok written) :
    toUnit (fields ++ [.trailing] ++ back) = .ok (written.finish ++
      Emulation.insert (Bits.pack (codeAll back (codeAll (fields ++ [.trailing]) 0).length))) := by
  obtain ⟨packed, last, ends, notZero⟩ := packed_trailing fields
  have aligned : (codeAll (fields ++ [.trailing]) 0).length % 8 = 0 := by
    rw [← packed, Bits.length_ofBytes]
    exact Nat.mul_mod_right 8 _
  rw [toUnit_eq fit, codeAll_append, Nat.zero_add, Bits.pack_append aligned,
    Emulation.insert_append ends notZero,
    finish_writeAll (List.forall_mem_append.mp fit).1 written_eq]

end CodedField

namespace Decoder

variable {α : Type} {decoder : Decoder α} {front : List CodedField} {value : α} {stop : Nat}

/-- What reads fields back gives their value for a unit whose payload starts with them. -/
theorem decodeUnit_of_payload (reads : decoder.ReadsBack front value 0 stop)
    (exact : ∀ field ∈ front, field.Exact) (ends : (CodedField.codeAll front 0).length = stop)
    {unit : List UInt8} {rest : List Bool}
    (payload_eq : Bits.ofBytes (Emulation.remove unit) = CodedField.codeAll front 0 ++ rest) :
    decoder.decodeUnit unit = .ok value := by
  have decoded := reads exact ((Nat.zero_add _).trans ends) rest
  rw [← payload_eq] at decoded
  rw [decodeUnit_eq_run_payload]
  exact congrArg Prod.fst decoded

/-- What reads fields back that end in trailing bits gives their value for the finished unit of
those fields, whatever payload is escaped behind it. -/
theorem decodeUnit_finish_append {fields : List CodedField}
    (reads : decoder.ReadsBack (fields ++ [.trailing]) value 0 stop)
    (exact : ∀ field ∈ fields ++ [.trailing], field.Exact)
    (ends : (CodedField.codeAll (fields ++ [.trailing]) 0).length = stop) {written : EscapedWriter}
    (written_eq : CodedField.writeAll (fields ++ [.trailing]) {} = .ok written)
    (payload : List UInt8) :
    decoder.decodeUnit (written.finish ++ Emulation.insert payload) = .ok value := by
  obtain ⟨bits_eq, noZeros⟩ :=
    CodedField.finish_trailing (fun field isThere => (exact field isThere).1) written_eq
  apply decodeUnit_of_payload reads exact ends
  rw [Emulation.remove_append, noZeros, Bits.ofBytes_append, bits_eq]

/-- What reads the front of the written fields back gives its value for the unit that they are
written to. -/
theorem decodeUnit_toUnit (reads : decoder.ReadsBack front value 0 stop)
    (exact : ∀ field ∈ front, field.Exact) (ends : (CodedField.codeAll front 0).length = stop)
    {back : List CodedField} (fit : ∀ field ∈ back, field.Fits) :
    ∃ unit, CodedField.toUnit (front ++ back) = .ok unit ∧
      decoder.decodeUnit unit = .ok value := by
  have allFit : ∀ field ∈ front ++ back, field.Fits := by
    rw [List.forall_mem_append]
    exact ⟨fun field isThere => (exact field isThere).1, fit⟩
  have payload_eq := Bits.ofBytes_pack (CodedField.codeAll (front ++ back) 0)
  rw [← Emulation.remove_insert (Bits.pack _), CodedField.codeAll_append,
    List.append_assoc] at payload_eq
  refine ⟨_, CodedField.toUnit_eq allFit, ?_⟩
  rw [CodedField.codeAll_append]
  exact decodeUnit_of_payload reads exact ends payload_eq

/-- What reads fields to the end gives their value for the unit that they are written to. -/
theorem decodeUnit_toUnit_trailing {fields : List CodedField}
    (reads : decoder.ReadsToEnd (fields ++ [.trailing]) value 0)
    (exact : ∀ field ∈ fields ++ [.trailing], field.Exact) :
    ∃ unit, CodedField.toUnit (fields ++ [.trailing]) = .ok unit ∧
      decoder.decodeUnit unit = .ok value := by
  obtain ⟨unit, unit_eq, payload_eq⟩ :=
    CodedField.exists_toUnit_trailing fun field isThere => (exact field isThere).1
  refine ⟨unit, unit_eq, ?_⟩
  rw [decodeUnit_eq_run_payload, payload_eq, reads exact]

end Decoder

namespace EscapedReader

/-- A reader of a unit has read the front fields of its payload, and the back fields are left. -/
abbrev Between (unit : List UInt8) (front back : List CodedField) (reader : EscapedReader) : Prop :=
  PayloadRelated unit reader (PlainReader.before (CodedField.codeAll front 0).length
    (CodedField.codeAll back (CodedField.codeAll front 0).length))

theorem between_ofUnit {unit : List UInt8} {fields : List CodedField}
    (payload_eq : PlainReader.ofBytes (Emulation.remove unit) =
      PlainReader.before 0 (CodedField.codeAll fields 0)) :
    Between unit [] fields (ofUnit unit) := by
  have starts := payloadRelated_ofUnit unit
  rw [payload_eq] at starts
  exact starts

/-- What reads fields back moves a reader on behind them. -/
theorem Between.decodes {unit : List UInt8} {front fields back : List CodedField}
    {escaped : EscapedReader} {α : Type} {decoder : Decoder α} {value : α}
    (between : Between unit front (fields ++ back) escaped)
    (reads : Decoder.Decodes decoder fields value) (exact : ∀ field ∈ fields, field.Exact) :
    ∃ reader : EscapedReader, decoder.run escaped = (.ok value, reader) ∧
      Between unit (front ++ fields) back reader := by
  have ended := reads (CodedField.codeAll front 0).length _ exact rfl
    (CodedField.codeAll back ((CodedField.codeAll front 0).length +
      (CodedField.codeAll fields (CodedField.codeAll front 0).length).length))
  have moved : (CodedField.codeAll front 0).length +
      (CodedField.codeAll fields (CodedField.codeAll front 0).length).length =
        (CodedField.codeAll (front ++ fields) 0).length := by
    rw [CodedField.codeAll_append, List.length_append, Nat.zero_add]
  rw [← CodedField.codeAll_append, moved] at ended
  exact between.run_ok ended

end EscapedReader

end CodedVideo
