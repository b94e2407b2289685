import CodedVideo.Proofs.Bits.Session
import CodedVideo.Proofs.Decoder.InStep
import CodedVideo.Proofs.NalUnit.EscapedSource

/-!
# Reading an escaped unit as its payload

A reader of an escaped unit and a reader of the payload that the unit escapes cannot be told apart,
whatever is done with them and whatever faults arise. So every grammar decodes an escaped unit as it
decodes the payload.

Main statement: `session_payload`.
-/

namespace CodedVideo.EscapedReader

/-- A reader of an escaped unit and the reader of the payload at the same bit. -/
abbrev PayloadRelated (unit : List UInt8) (escaped : EscapedReader) (plain : PlainReader) : Prop :=
  ReadersRelated (fun source payload => source.ValidIn unit ∧ source.payload = payload) escaped
    plain

/-- In front of the first bit, an escaped unit and its payload are read at the same bit. -/
theorem payloadRelated_ofUnit (unit : List UInt8) :
    PayloadRelated unit (ofUnit unit) (PlainReader.ofBytes (Emulation.remove unit)) where
  sources := ⟨EscapedSource.validIn_ofUnit unit, rfl⟩
  fault_eq := rfl

/-- A decoder gives the same result on both readers and leaves them at the same bit. -/
theorem PayloadRelated.run {unit : List UInt8} {escaped : EscapedReader} {plain : PlainReader}
    (readers : PayloadRelated unit escaped plain) {α : Type} (decoder : Decoder α) :
    (decoder.run escaped).1 = (decoder.run plain).1 ∧
      PayloadRelated unit (decoder.run escaped).2 (decoder.run plain).2 :=
  EndAlike.together <| decoder.run_alike (fun impossible => impossible.elim)
    (EscapedSource.inStep_payload unit) readers

/-- What a decoder gives from the payload it gives from the unit. -/
theorem PayloadRelated.run_ok {unit : List UInt8} {escaped : EscapedReader}
    {plain last : PlainReader} {α : Type} {decoder : Decoder α} {value : α}
    (readers : PayloadRelated unit escaped plain) (ended : decoder.run plain = (.ok value, last)) :
    ∃ reader : EscapedReader, decoder.run escaped = (.ok value, reader) ∧
      PayloadRelated unit reader last := by
  rcases readers.run decoder with ⟨result_eq, rests⟩
  rw [ended] at result_eq rests
  exact ⟨(decoder.run escaped).2, Prod.ext result_eq rfl, rests⟩

/-- Every session with an escaped unit observes what it observes with the payload. Behind it, every
decoder still gives the same result on both readers and leaves them at the same position with the
same fault. -/
theorem session_payload (unit : List UInt8) (session : Session) :
    (session.run (ofUnit unit)).1 =
        (session.run (PlainReader.ofBytes (Emulation.remove unit))).1 ∧
      ∀ {α : Type} (decoder : Decoder α),
        let escaped := decoder.run (session.run (ofUnit unit)).2
        let plain := decoder.run (session.run (PlainReader.ofBytes (Emulation.remove unit))).2
        escaped.1 = plain.1 ∧ escaped.2.position = plain.2.position ∧
          escaped.2.fault = plain.2.fault := by
  rcases session.run_related (EscapedSource.inStep_payload unit) (payloadRelated_ofUnit unit) with
    ⟨observed_eq, lasts⟩
  constructor
  · exact observed_eq
  · intro α decoder
    rcases PayloadRelated.run lasts decoder with ⟨result_eq, rests⟩
    have position_eq := Reader.position_related (EscapedSource.inStep_payload unit) rests
    exact ⟨result_eq, position_eq, rests.fault_eq⟩

end CodedVideo.EscapedReader

/-- Decoding an escaped unit is decoding its payload. -/
theorem CodedVideo.Decoder.decodeUnit_eq_run_payload {α : Type} (decoder : Decoder α)
    (unit : List UInt8) :
    decoder.decodeUnit unit = (decoder.run (PlainReader.ofBytes (Emulation.remove unit))).1 :=
  ((EscapedReader.payloadRelated_ofUnit unit).run decoder).1
