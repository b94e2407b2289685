import CodedVideo.Avc.Coding
import CodedVideo.Hevc.NalUnit
import CodedVideo.Proofs.Decoder.ReadsBack
import CodedVideo.Vvc.NalUnit

/-!
# Decoding the coding of unit headers

A header is decoded to itself where the code of its type stands for that type. The types that are
named do so; one that is only a code may be the code of a named type.
-/

namespace CodedVideo

open Decoder (Decodes ReadsBack)

theorem Avc.NalHeader.decodes_coding {header : NalHeader}
    (typeOfCode : NalUnitType.ofCode header.unitType.code = header.unitType) :
    Decodes NalHeader.decoder header.coding header := by
  intro start stop
  refine ReadsBack.bind (.bit false) fun _ => ?_
  refine ReadsBack.bind (.bits header.refIdc 2) fun _ => ?_
  refine ReadsBack.bind_last (.bits header.unitType.code 5) ?_
  rw [typeOfCode]
  exact ReadsBack.done header

theorem Hevc.NalHeader.decodes_coding {header : NalHeader}
    (typeOfCode : NalUnitType.ofCode header.unitType.code = header.unitType)
    (temporalIdPlus1 : header.temporalIdPlus1 ≠ 0) :
    Decodes NalHeader.decoder header.coding header := by
  intro start stop
  refine ReadsBack.bind (.within (.flag false)) fun mid => ?_
  refine ReadsBack.bind_first (.require rfl) ?_
  refine ReadsBack.bind (.within (.bits header.unitType.code 6)) fun mid => ?_
  refine ReadsBack.bind (.within (.bits header.layerId 6)) fun mid => ?_
  refine ReadsBack.bind_last (.within (.bits header.temporalIdPlus1 3)) ?_
  refine ReadsBack.bind_first (.require (bne_iff_ne.mpr temporalIdPlus1)) ?_
  rw [typeOfCode]
  exact ReadsBack.done header

theorem Vvc.NalHeader.decodes_coding {header : NalHeader}
    (typeOfCode : NalUnitType.ofCode header.unitType.code = header.unitType)
    (temporalIdPlus1 : header.temporalIdPlus1 ≠ 0) :
    Decodes NalHeader.decoder header.coding header := by
  intro start stop
  refine ReadsBack.bind (.within (.flag false)) fun mid => ?_
  refine ReadsBack.bind_first (.require rfl) ?_
  refine ReadsBack.bind (.within (.flag false)) fun mid => ?_
  refine ReadsBack.bind_first (.require rfl) ?_
  refine ReadsBack.bind (.within (.bits header.layerId 6)) fun mid => ?_
  refine ReadsBack.bind (.within (.bits header.unitType.code 5)) fun mid => ?_
  refine ReadsBack.bind_last (.within (.bits header.temporalIdPlus1 3)) ?_
  refine ReadsBack.bind_first (.require (bne_iff_ne.mpr temporalIdPlus1)) ?_
  rw [typeOfCode]
  exact ReadsBack.done header

/-! ## Widths -/

/-- A header whose numbers fit their widths is kept as it is. -/
theorem Avc.NalHeader.exact_coding {header : NalHeader} (refIdc_lt : header.refIdc < 4)
    (code_lt : header.unitType.code < 32) : ∀ field ∈ header.coding, field.Exact := by
  simp only [coding, List.forall_mem_cons]
  exact ⟨by decide, CodedField.exact_bits (by decide) refIdc_lt,
    CodedField.exact_bits (by decide) code_lt, List.forall_mem_nil _⟩

/-- A header whose numbers fit their widths is kept as it is. -/
theorem Hevc.NalHeader.exact_coding {header : NalHeader} (code_lt : header.unitType.code < 64)
    (layerId_lt : header.layerId < 64) (temporalIdPlus1_lt : header.temporalIdPlus1 < 8) :
    ∀ field ∈ header.coding, field.Exact := by
  simp only [coding, List.forall_mem_cons]
  exact ⟨by decide, CodedField.exact_bits (by decide) code_lt,
    CodedField.exact_bits (by decide) layerId_lt,
    CodedField.exact_bits (by decide) temporalIdPlus1_lt, List.forall_mem_nil _⟩

/-- A header whose numbers fit their widths is kept as it is. -/
theorem Vvc.NalHeader.exact_coding {header : NalHeader} (code_lt : header.unitType.code < 32)
    (layerId_lt : header.layerId < 64) (temporalIdPlus1_lt : header.temporalIdPlus1 < 8) :
    ∀ field ∈ header.coding, field.Exact := by
  simp only [coding, List.forall_mem_cons]
  exact ⟨by decide, by decide, CodedField.exact_bits (by decide) layerId_lt,
    CodedField.exact_bits (by decide) code_lt,
    CodedField.exact_bits (by decide) temporalIdPlus1_lt, List.forall_mem_nil _⟩

end CodedVideo
