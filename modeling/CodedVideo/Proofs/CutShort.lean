import CodedVideo.Proofs.Avc.SequenceGrammar
import CodedVideo.Proofs.Hevc.SetGrammar
import CodedVideo.Proofs.NalUnit.CutShort

/-!
# Parameter sets that are cut short

A parameter set whose payload ends in a byte other than zero is the shortest one: from no unit that
is cut out of its front anything is decoded, and what is reported of such a unit is that it ends too
early.

Main statement: `parameterSets_rejectCuts`.
-/

namespace CodedVideo

open Decoder (located trailingBits)

/-- The numbers of stored bytes in a set do not decide whether a unit is rejected. -/
theorem Avc.SequenceParameterSet.rejectsCuts_ofUnit :
    RejectsCuts .truncated (fun _ => True) ofUnit := by
  have rejects : RejectsCuts .truncated (fun _ => True) unitDecoder.decodeUnit := by
    apply contentDecoder.rejectsCuts_decodeUnit
    intro state value reader last _ _
    exact ⟨structureName, _, rfl⟩
  intro unit set last accepted _ ends notZero part isPrefix isProper
  have unit_eq := map_withoutByteCounts_ofUnit unit
  have part_eq := map_withoutByteCounts_ofUnit part
  rw [accepted] at unit_eq
  obtain ⟨name, offset, failed⟩ :=
    rejects unit _ last unit_eq.symm trivial ends notZero part isPrefix isProper
  rw [failed] at part_eq
  exists name, offset
  cases result_eq : ofUnit part with
  | ok value =>
      rw [result_eq] at part_eq
      cases part_eq
  | error error =>
      rw [result_eq] at part_eq
      cases part_eq
      rfl

namespace Hevc

theorem SequenceParameterSet.rejectsCuts_ofUnit :
    RejectsCuts (fun name offset => .failed (.truncated name offset)) (fun _ => True) ofUnit := by
  apply Decoder.rejectsCuts_decodeUnitPartly
  rw [decoder_eq]
  apply Decoder.rejectsCuts_decodeUnit
  intro set result reader last isComplete accepted
  exact opensTrailingBits_of_closeDecoder isComplete accepted

theorem PictureParameterSet.rejectsCuts_ofUnit :
    RejectsCuts (fun name offset => .failed (.truncated name offset)) (fun _ => True) ofUnit := by
  apply Decoder.rejectsCuts_decodeUnitPartly
  rw [decoder_eq]
  apply Decoder.rejectsCuts_decodeUnit
  intro set result reader last isComplete accepted
  exact opensTrailingBits_of_closeDecoder isComplete accepted

/-- Behind extension data no trailing bits are checked, so a set with such data does not count. -/
theorem VideoParameterSet.rejectsCuts_ofUnit :
    RejectsCuts .truncated (·.extended = false) ofUnit := by
  have rejects : RejectsCuts .truncated (·.extended = false) decoder.decodeUnit := by
    rw [decoder_eq]
    apply Decoder.rejectsCuts_decodeUnit
    intro set result reader last isComplete accepted
    cases isExtended : set.extended with
    | false => exact ⟨structureName, _, rfl⟩
    | true =>
        rw [isExtended] at accepted
        cases accepted
        exact Bool.noConfusion (isExtended.symm.trans isComplete)
  exact rejects

end Hevc

/-- If one of these parsers accepts a unit whose payload ends in a byte other than zero, it reports
of each unit that is cut out of its front, the empty one included, that the unit ends too early. -/
theorem parameterSets_rejectCuts :
    RejectsCuts .truncated (fun _ => True) Avc.SequenceParameterSet.ofUnit ∧
      RejectsCuts (fun name offset => .failed (.truncated name offset)) (fun _ => True)
        Hevc.SequenceParameterSet.ofUnit ∧
      RejectsCuts (fun name offset => .failed (.truncated name offset)) (fun _ => True)
        Hevc.PictureParameterSet.ofUnit ∧
      RejectsCuts .truncated (·.extended = false) Hevc.VideoParameterSet.ofUnit :=
  ⟨Avc.SequenceParameterSet.rejectsCuts_ofUnit, Hevc.SequenceParameterSet.rejectsCuts_ofUnit,
    Hevc.PictureParameterSet.rejectsCuts_ofUnit, Hevc.VideoParameterSet.rejectsCuts_ofUnit⟩

/-- A result that can be checked to be an accepted value is one. -/
theorem exists_eq_ok_of_any {ε α : Type} (result : Except ε α) (holds : α → Bool)
    (isAccepted : result.toOption.any holds = true) :
    ∃ value, result = .ok value ∧ holds value = true := by
  cases result with
  | error error => cases isAccepted
  | ok value => exact ⟨value, rfl, isAccepted⟩

/-- An accepted set of each kind, and what is reported of every unit that is cut out of its
front. -/
theorem parameterSets_rejectCuts_samples :
    let avcSequence : List UInt8 := [0x67, 0x42, 0x00, 0x1e, 0xda, 0x05, 0x82, 0x59]
    let hevcSequence : List UInt8 :=
      [0x42, 0x01, 0x01, 0x01, 0x60, 0x00, 0x00, 0x03, 0x00, 0x90, 0x00, 0x00, 0x03, 0x00, 0x00,
        0x03, 0x00, 0x78, 0xa0, 0x03, 0xc0, 0x80, 0x10, 0xe5, 0x96, 0x56, 0x69, 0x24, 0xca, 0xe0,
        0x10, 0x00, 0x00, 0x03, 0x00, 0x10, 0x00, 0x00, 0x03, 0x01, 0xe0, 0x80]
    let hevcPicture : List UInt8 := [0x44, 0x01, 0xc1, 0x72, 0xb4, 0x62, 0x40]
    let hevcVideo : List UInt8 :=
      [0x40, 0x01, 0x0c, 0x01, 0xff, 0xff, 0x01, 0x60, 0x00, 0x00, 0x03, 0x00, 0x90, 0x00, 0x00,
        0x03, 0x00, 0x00, 0x03, 0x00, 0x78, 0x95, 0x98, 0x09]
    (∀ part, part <+: avcSequence → part ≠ avcSequence →
        ∃ name offset, Avc.SequenceParameterSet.ofUnit part = .error (.truncated name offset)) ∧
      (∀ part, part <+: hevcSequence → part ≠ hevcSequence →
        ∃ name offset,
          Hevc.SequenceParameterSet.ofUnit part = .error (.failed (.truncated name offset))) ∧
      (∀ part, part <+: hevcPicture → part ≠ hevcPicture →
        ∃ name offset,
          Hevc.PictureParameterSet.ofUnit part = .error (.failed (.truncated name offset))) ∧
      ∀ part, part <+: hevcVideo → part ≠ hevcVideo →
        ∃ name offset, Hevc.VideoParameterSet.ofUnit part = .error (.truncated name offset) := by
  intro avcSequence hevcSequence hevcPicture hevcVideo
  rcases parameterSets_rejectCuts with ⟨avcSequences, hevcSequences, hevcPictures, hevcVideos⟩
  obtain ⟨avcSet, avcAccepted, _⟩ := exists_eq_ok_of_any
    (Avc.SequenceParameterSet.ofUnit avcSequence) (fun _ => true) (by decide +kernel)
  obtain ⟨sequenceSet, sequenceAccepted, _⟩ := exists_eq_ok_of_any
    (Hevc.SequenceParameterSet.ofUnit hevcSequence) (fun _ => true) (by decide +kernel)
  obtain ⟨pictureSet, pictureAccepted, _⟩ := exists_eq_ok_of_any
    (Hevc.PictureParameterSet.ofUnit hevcPicture) (fun _ => true) (by decide +kernel)
  obtain ⟨videoSet, videoAccepted, notExtended⟩ := exists_eq_ok_of_any
    (Hevc.VideoParameterSet.ofUnit hevcVideo) (!·.extended) (by decide +kernel)
  refine ⟨?_, ?_, ?_, ?_⟩
  · exact avcSequences avcSequence avcSet 0x59 avcAccepted trivial (by decide) (by decide)
  · exact hevcSequences hevcSequence sequenceSet 0x80 sequenceAccepted trivial (by decide)
      (by decide)
  · exact hevcPictures hevcPicture pictureSet 0x40 pictureAccepted trivial (by decide) (by decide)
  · exact hevcVideos hevcVideo videoSet 0x09 videoAccepted
      ((Bool.not_eq_true' _).mp notExtended) (by decide) (by decide)

end CodedVideo
