import CodedVideo.Proofs.Avc.SliceReadBack
import CodedVideo.Proofs.CutShort
import CodedVideo.Proofs.Decoder.Classifies
import CodedVideo.Proofs.Decoder.Reports
import CodedVideo.Proofs.Hevc.SliceData
import CodedVideo.Proofs.SamePayload

/-!
# Slice types and slice headers

The type of a slice is found without decoding its whole header. In the unit of a header that is
decoded it is the type that the header has, and where it is not found the header is not decoded
either, for the same reason. One difference is on purpose: a unit with a slice extension has no
slice type that is found, and as a header it is not supported.

Main statement: `sliceTypes_agreeWithHeaders`.
-/

namespace CodedVideo

open Decoder (Classifies Yields)

/-! ## AVC -/

namespace Avc

/-- The type of the unit, if it has one, is that of a slice extension: its code is 20 or 21. -/
def NalUnitType.IsSliceExtension (unitType? : Option NalUnitType) : Prop :=
  unitType? = some sliceExtension ∨ unitType? = some depthSliceExtension

instance (unitType? : Option NalUnitType) :
    Decidable (NalUnitType.IsSliceExtension unitType?) :=
  inferInstanceAs (Decidable (_ ∨ _))

theorem NalUnitType.ofUnit?_cons (byte : UInt8) (bytes : List UInt8) :
    ofUnit? (byte :: bytes) = some (NalHeader.ofByte byte).unitType := rfl

theorem NalUnitType.not_isSliceExtension {unitType : NalUnitType}
    (hasHeader : unitType.hasSliceHeader = true) : ¬IsSliceExtension (some unitType) := by
  rintro (isExtension | isExtension) <;> cases isExtension <;> cases hasHeader

namespace NalHeader

/-- The fields of a header byte. -/
def codingOfByte (byte : UInt8) : List CodedField :=
  [.bits (byte.toNat / 128) 1, .bits (byte.toNat / 32 % 4) 2, .bits (byte.toNat % 32) 5]

theorem codeAll_codingOfByte (byte : UInt8) :
    CodedField.codeAll (codingOfByte byte) 0 = Bits.ofByte byte := by
  simp only [codingOfByte, CodedField.codeAll, CodedField.code, Bits.ofByte, Bits.ofNat,
    List.append_nil, List.cons_append, List.nil_append, Nat.testBit_eq_decide_div_mod_eq,
    List.cons.injEq, decide_eq_decide, and_true]
  refine ⟨?_, ?_, ?_, ?_, ?_, ?_, ?_, ?_⟩ <;> omega

theorem exact_codingOfByte (byte : UInt8) : ∀ field ∈ codingOfByte byte, field.Exact := by
  have isByte := byte.toNat_lt
  simp only [codingOfByte, List.forall_mem_cons]
  exact ⟨CodedField.exact_bits (by decide) (by omega), CodedField.exact_bits (by decide) (by omega),
    CodedField.exact_bits (by decide) (by omega), List.forall_mem_nil _⟩

theorem decodes_codingOfByte (byte : UInt8) :
    Decoder.Decodes decoder (codingOfByte byte) (ofByte byte) := by
  intro start stop
  refine Decoder.ReadsBack.bind (.bits (byte.toNat / 128) 1) fun _ => ?_
  refine Decoder.ReadsBack.bind (.bits (byte.toNat / 32 % 4) 2) fun _ => ?_
  exact Decoder.ReadsBack.bind_last (.bits (byte.toNat % 32) 5) (.done (ofByte byte))

/-- The header of a unit is decoded from its first byte, which is never an inserted one. -/
theorem decodeUnit_cons (byte : UInt8) (bytes : List UInt8) :
    decoder.decodeUnit (byte :: bytes) = .ok (ofByte byte) := by
  have payload_eq : Bits.ofBytes (Emulation.remove (byte :: bytes)) =
      CodedField.codeAll (codingOfByte byte) 0 ++
        Bits.ofBytes (Emulation.removeAfter (Emulation.zeroRun 0 byte) bytes) := by
    rw [codeAll_codingOfByte, Emulation.remove, Emulation.removeAfter_zero_cons,
      Bits.ofBytes_cons]
  refine Decoder.decodeUnit_of_payload (decodes_codingOfByte byte 0 8) (exact_codingOfByte byte)
    ?_ payload_eq
  rw [codeAll_codingOfByte]
  exact Bits.length_ofByte byte

/-- A unit with a slice header is decoded by what follows its header, and every other one is
refused. -/
theorem exists_decodeUnit_slice (byte : UInt8) (bytes : List UInt8) :
    ∃ rest : EscapedReader, ∀ {α : Type} (refusal : NalUnitType → Error)
      (next : NalHeader → Decoder α),
      ((Decoder.locatedAt SliceHeader.structureName 0 decoder).bind fun unit =>
          (Decoder.require unit.unitType.hasSliceHeader (refusal unit.unitType)).bind fun _ =>
            next unit).decodeUnit (byte :: bytes) =
        if (ofByte byte).unitType.hasSliceHeader then ((next (ofByte byte)).run rest).1
        else .error (refusal (ofByte byte).unitType) := by
  have decoded := decodeUnit_cons byte bytes
  rcases run_eq : decoder.run (EscapedReader.ofUnit (byte :: bytes)) with ⟨result, rest⟩
  rw [Decoder.decodeUnit, run_eq] at decoded
  cases decoded
  refine ⟨rest, fun refusal next => ?_⟩
  rw [Decoder.decodeUnit, Decoder.run_bind, Decoder.locatedAt, Decoder.run_within, run_eq]
  simp only [resume, Decoder.run, Decoder.require]
  by_cases hasHeader : (ofByte byte).unitType.hasSliceHeader = true
  · rw [if_pos hasHeader, if_pos hasHeader]
    rfl
  · rw [if_neg hasHeader, if_neg hasHeader]
    rfl

end NalHeader

namespace SliceHeader

variable (sequences : IdTable SequenceParameterSet) (pictures : IdTable PictureParameterSet)

theorem decoder_eq : decoder sequences pictures =
    (Decoder.locatedAt structureName 0 NalHeader.decoder).bind fun unit =>
      (Decoder.require unit.unitType.hasSliceHeader (refusal unit.unitType)).bind fun _ =>
        Decoder.located structureName (fields sequences pictures unit) := rfl

theorem typeOnly_eq : SliceType.decoder =
    (Decoder.locatedAt structureName 0 NalHeader.decoder).bind fun unit =>
      (Decoder.require unit.unitType.hasSliceHeader
        (.wrongUnitType structureName unit.unitType.code)).bind fun _ =>
          (Decoder.located structureName Decoder.unsigned).bind fun _ =>
            (Decoder.located structureName typeDecoder).bind fun found => Decoder.done found.2 := rfl

/-- The slice type stands behind the first macroblock, and no later field changes it. -/
theorem classifies_fields (unit : NalHeader) :
    Classifies
      ((Decoder.located structureName Decoder.unsigned).bind fun _ =>
        (Decoder.located structureName typeDecoder).bind fun found => Decoder.done found.2)
      (Decoder.located structureName (fields sequences pictures unit)) (·.sliceType) := by
  refine Classifies.located_position fun start => ?_
  refine Classifies.located_bind fun firstMacroblock => ?_
  refine Classifies.located_bind fun found => ?_
  refine Classifies.done (Yields.within ?_)
  iterate 22 refine Yields.behind fun _ => ?_
  exact Yields.done rfl

/-- The refusal of a unit of another type names the type, unless it is that of a slice extension. -/
theorem refusal_eq (unitType : NalUnitType) :
    refusal unitType =
      if NalUnitType.IsSliceExtension (some unitType) then
        .unsupported structureName "MVC/SVC slice extension"
      else .wrongUnitType structureName unitType.code := by
  cases unitType <;> rfl

/-- An empty unit ends before its type is known. -/
theorem decodeUnit_nil {α : Type} (next : NalHeader → Decoder α) :
    ((Decoder.locatedAt structureName 0 NalHeader.decoder).bind next).decodeUnit [] =
      .error (.truncated structureName 0) := by
  rw [Decoder.decodeUnit, Decoder.run_bind]
  have run_eq : ((Decoder.locatedAt structureName 0 NalHeader.decoder).run
      (EscapedReader.ofUnit [])).1 = .error (.truncated structureName 0) := by decide
  generalize (Decoder.locatedAt structureName 0 NalHeader.decoder).run
    (EscapedReader.ofUnit []) = ran at run_eq ⊢
  obtain ⟨result, last⟩ := ran
  cases run_eq
  rfl

/-- The slice type of a decoded header is found, and where none is found no header is decoded, for
the same reason but for slice extensions. -/
theorem agreesWithType (unit : List UInt8) :
    (∀ header, ofUnit sequences pictures unit = .ok header →
        SliceType.ofUnit unit = .ok header.sliceType) ∧
      ∀ error, SliceType.ofUnit unit = .error error →
        ofUnit sequences pictures unit = .error
          (if NalUnitType.IsSliceExtension (NalUnitType.ofUnit? unit) then
            .unsupported structureName "MVC/SVC slice extension"
          else error) := by
  rw [ofUnit, SliceType.ofUnit, decoder_eq, typeOnly_eq]
  cases unit with
  | nil =>
      rw [decodeUnit_nil, decodeUnit_nil]
      refine ⟨fun header isDecoded => ?_, fun error failed => ?_⟩
      · cases isDecoded
      · cases failed
        rfl
  | cons byte bytes =>
      obtain ⟨rest, opens⟩ := NalHeader.exists_decodeUnit_slice byte bytes
      rw [opens refusal fun unit => Decoder.located structureName (fields sequences pictures unit),
        opens (fun unitType => .wrongUnitType structureName unitType.code),
        NalUnitType.ofUnit?_cons, refusal_eq]
      by_cases hasHeader : (NalHeader.ofByte byte).unitType.hasSliceHeader = true
      · rw [if_pos hasHeader, if_pos hasHeader]
        have classifies := classifies_fields sequences pictures (NalHeader.ofByte byte)
        refine ⟨fun header isDecoded => ?_, fun error failed => ?_⟩
        · obtain ⟨stopped, found⟩ := classifies.run_of_ok rest _ header (Prod.ext isDecoded rfl)
          exact congrArg Prod.fst found
        · rw [if_neg (NalUnitType.not_isSliceExtension hasHeader)]
          exact congrArg Prod.fst (classifies.run_of_error rest _ error (Prod.ext failed rfl))
      · rw [if_neg hasHeader, if_neg hasHeader]
        refine ⟨fun header isDecoded => ?_, fun error failed => ?_⟩
        · cases isDecoded
        · cases failed
          rfl

end SliceHeader

end Avc

/-! ## HEVC -/

namespace Hevc

variable (sequences : IdTable SequenceParameterSet) (pictures : IdTable PictureParameterSet)

/-- The slice type ends the start of the segment, which is the one of the header. -/
theorem SliceHeader.classifies_decoder :
    Classifies (SliceType.decoder sequences pictures) (SliceHeader.decoder sequences pictures)
      (·.start.sliceType) := by
  refine Classifies.bind fun unit => ?_
  refine Classifies.located_position fun origin => ?_
  refine Classifies.located_bind fun referring => ?_
  refine Classifies.done (Yields.within ?_)
  iterate 6 refine Yields.behind fun _ => ?_
  exact Yields.done rfl

/-- The slice type of a decoded segment is found, and where none is found no segment is decoded,
for the same reason. -/
theorem SliceSegment.agreesWithType (unit : List UInt8) :
    (∀ segment, ofUnit sequences pictures unit = .ok segment →
        SliceType.ofUnit sequences pictures unit = .ok segment.header.start.sliceType) ∧
      ∀ error, SliceType.ofUnit sequences pictures unit = .error error →
        ofUnit sequences pictures unit = .error error := by
  have classifies := SliceHeader.classifies_decoder sequences pictures
  have header_eq := map_header_ofUnit sequences pictures unit
  refine ⟨fun segment isDecoded => ?_, fun error failed => ?_⟩
  · rw [isDecoded] at header_eq
    exact classifies.decodeUnit_of_ok header_eq.symm
  · exact Error.map_eq_error_iff.mp (header_eq.trans (classifies.decodeUnit_of_error failed))

end Hevc

/-! ## Both standards -/

/-- The type that is found of a slice is the one in its decoded header, and where no type is found no
header is decoded, with the same error down to the bit that it names. Only an AVC slice extension is
refused in other words: no type is found in a unit of its kind, and as a header it is not
supported. -/
theorem sliceTypes_agreeWithHeaders
    (avcSequences : IdTable Avc.SequenceParameterSet)
    (avcPictures : IdTable Avc.PictureParameterSet)
    (hevcSequences : IdTable Hevc.SequenceParameterSet)
    (hevcPictures : IdTable Hevc.PictureParameterSet) (unit : List UInt8) :
    (∀ header, Avc.SliceHeader.ofUnit avcSequences avcPictures unit = .ok header →
        Avc.SliceType.ofUnit unit = .ok header.sliceType) ∧
      (∀ error, Avc.SliceType.ofUnit unit = .error error →
        Avc.SliceHeader.ofUnit avcSequences avcPictures unit = .error
          (if Avc.NalUnitType.IsSliceExtension (Avc.NalUnitType.ofUnit? unit) then
            .unsupported Avc.SliceHeader.structureName "MVC/SVC slice extension"
          else error)) ∧
      (∀ segment, Hevc.SliceSegment.ofUnit hevcSequences hevcPictures unit = .ok segment →
        Hevc.SliceType.ofUnit hevcSequences hevcPictures unit =
          .ok segment.header.start.sliceType) ∧
      ∀ error, Hevc.SliceType.ofUnit hevcSequences hevcPictures unit = .error error →
        Hevc.SliceSegment.ofUnit hevcSequences hevcPictures unit = .error error := by
  obtain ⟨avcTypes, avcErrors⟩ :=
    Avc.SliceHeader.agreesWithType avcSequences avcPictures unit
  obtain ⟨hevcTypes, hevcErrors⟩ :=
    Hevc.SliceSegment.agreesWithType hevcSequences hevcPictures unit
  exact ⟨avcTypes, avcErrors, hevcTypes, hevcErrors⟩

/-- A slice of each standard is accepted, an AVC slice extension is not supported, and an HEVC
segment that is cut inside its address is truncated where the address starts. -/
theorem sliceTypes_agreeWithHeaders_samples :
    let avcSequences := IdTable.empty.insert 0 Avc.SliceHeader.sampleSequence
    let avcPictures := IdTable.empty.insert 0 Avc.SliceHeader.samplePicture
    let hevcSequences := Hevc.SliceSegment.sampleSequences
    let hevcPictures := Hevc.SliceSegment.samplePictures
    let slice : List UInt8 := [0x41, 0x9a, 0x20, 0x5f, 0x21, 0x8d, 0x33, 0x56, 0x8e, 0xa8]
    let extension : List UInt8 := [0x74, 0x01]
    let segment := Hevc.SliceSegment.sampleSegment
    (∃ header, Avc.SliceHeader.ofUnit avcSequences avcPictures slice = .ok header ∧
        Avc.SliceType.ofUnit slice = .ok header.sliceType) ∧
      Avc.SliceHeader.ofUnit avcSequences avcPictures extension =
        .error (.unsupported Avc.SliceHeader.structureName "MVC/SVC slice extension") ∧
      (∃ decoded, Hevc.SliceSegment.ofUnit hevcSequences hevcPictures segment = .ok decoded ∧
        Hevc.SliceType.ofUnit hevcSequences hevcPictures segment =
          .ok decoded.header.start.sliceType) ∧
      Hevc.SliceSegment.ofUnit hevcSequences hevcPictures (segment.take 3) =
        .error (.truncated Hevc.SegmentStart.structureName 18) := by
  intro avcSequences avcPictures hevcSequences hevcPictures slice extension segment
  have agree := sliceTypes_agreeWithHeaders avcSequences avcPictures hevcSequences hevcPictures
  obtain ⟨header, headerAccepted, -⟩ := exists_eq_ok_of_any
    (Avc.SliceHeader.ofUnit avcSequences avcPictures slice) (fun _ => true) (by decide +kernel)
  obtain ⟨decoded, segmentAccepted, -⟩ := exists_eq_ok_of_any
    (Hevc.SliceSegment.ofUnit hevcSequences hevcPictures segment) (fun _ => true)
    (by decide +kernel)
  refine ⟨⟨header, headerAccepted, (agree slice).1 header headerAccepted⟩, ?_,
    ⟨decoded, segmentAccepted, (agree segment).2.2.1 decoded segmentAccepted⟩, ?_⟩
  · exact (agree extension).2.1 (.wrongUnitType Avc.SliceHeader.structureName 20)
      (by decide +kernel)
  · exact (agree (segment.take 3)).2.2.2 _ (by decide +kernel)

end CodedVideo
