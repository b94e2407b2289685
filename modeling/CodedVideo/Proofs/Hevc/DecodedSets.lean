import CodedVideo.Proofs.Decoder.Yields
import CodedVideo.Proofs.Hevc.SetGrammar

/-!
# HEVC parameter sets that were decoded

What the fields of a parameter set yield holds of each set that is decoded from a unit, also of one
that is kept although decoding stopped in front of its extensions. The bounds that the grammar of
sequence parameter sets puts on their fields are such conditions; where one field limits the next
one, the bound is on both together.

Main statements: `VideoParameterSet.of_ofUnit`, `SequenceParameterSet.of_keepDecoded`,
`PictureParameterSet.of_keepDecoded` and `SequenceParameterSet.bounded_of_keepDecoded`.
-/

namespace CodedVideo.Hevc

open Decoder (Yields)

section

variable {α : Type} {condition : α → Prop} {structureName : String}

theorem yields_setDecoder {unitType : NalUnitType} {fields : Decoder α}
    (yields : Yields fields condition) :
    Yields (setDecoder unitType structureName fields) condition :=
  Yields.behind fun _ => Yields.behind fun _ => Yields.within yields

/-- What follows the fields of a set changes none of them. -/
theorem yields_closeDecoder {feature : String} {extended : α → Bool} {set : α}
    (holds : condition set) :
    Yields (closeDecoder structureName feature extended set) fun result => condition result.1 := by
  unfold closeDecoder
  split
  · exact Yields.done holds
  · exact Yields.behind fun _ => Yields.done holds

end

theorem VideoParameterSet.of_ofUnit {condition : VideoParameterSet → Prop}
    (yields : Yields fields condition) {unit : List UInt8} {set : VideoParameterSet}
    (isDecoded : ofUnit unit = .ok set) : condition set := by
  rw [ofUnit, decoder_eq] at isDecoded
  refine Yields.of_decodeUnit ?_ isDecoded
  exact Yields.bind (yields_setDecoder yields) fun _ holds => Yields.behind fun _ => .done holds

theorem SequenceParameterSet.of_keepDecoded {condition : SequenceParameterSet → Prop}
    (yields : Yields fields condition) {unit : List UInt8} {set : SequenceParameterSet}
    (isDecoded : Interruption.keepDecoded (ofUnit unit) = .ok set) : condition set := by
  rw [ofUnit, decoder_eq] at isDecoded
  refine Yields.of_keepDecoded ?_ isDecoded
  exact Yields.bind (yields_setDecoder yields) fun _ holds => yields_closeDecoder holds

theorem PictureParameterSet.of_keepDecoded {condition : PictureParameterSet → Prop}
    (yields : Yields fields condition) {unit : List UInt8} {set : PictureParameterSet}
    (isDecoded : Interruption.keepDecoded (ofUnit unit) = .ok set) : condition set := by
  rw [ofUnit, decoder_eq] at isDecoded
  refine Yields.of_keepDecoded ?_ isDecoded
  exact Yields.bind (yields_setDecoder yields) fun _ holds => yields_closeDecoder holds

/-! ## Bounds of sequence parameter sets -/

/-- No coding block is greater than 64 samples and no transform block greater than 32. -/
structure BlockSizes.Consistent (blocks : BlockSizes) : Prop where
  coding_le : blocks.log2MinCodingMinus3 + blocks.log2CodingRange ≤ 3
  transform_le : blocks.log2MinTransformMinus2 + blocks.log2TransformRange ≤ 3

theorem BlockSizes.yields_decoder : Yields decoder Consistent := by
  refine Yields.bind Yields.boundedUnsigned fun log2MinCodingMinus3 minCoding_le => ?_
  refine Yields.bind Yields.boundedUnsigned fun log2CodingRange codingRange_le => ?_
  refine Yields.bind Yields.boundedUnsigned fun log2MinTransformMinus2 minTransform_le => ?_
  refine Yields.bind Yields.boundedUnsigned fun log2TransformRange transformRange_le => ?_
  iterate 2 refine Yields.behind fun _ => ?_
  refine Yields.done ?_
  constructor
  · exact Nat.add_le_of_le_sub' minCoding_le codingRange_le
  · exact Nat.add_le_of_le_sub' minTransform_le transformRange_le

/-- Each sub-layer has its entry, also where only the highest one is coded. -/
theorem SubLayerOrdering.yields_listDecoder (eachCoded : Bool) (maxSubLayersMinus1 : Nat) :
    Yields (listDecoder eachCoded maxSubLayersMinus1) (·.length = maxSubLayersMinus1 + 1) := by
  unfold listDecoder
  split
  · exact Yields.replicate _ _
  · exact Yields.behind fun _ => Yields.done List.length_replicate

namespace SequenceParameterSet

/-- A sequence parameter set is within what its grammar bounds. -/
structure Bounded (set : SequenceParameterSet) : Prop where
  chroma_le : set.chroma ≤ 3
  chroma_of_separatePlanes : set.separatePlanes = true → set.chroma = 3
  codedWidth_lt : set.codedWidth < ExpGolomb.unsignedLimit
  codedHeight_lt : set.codedHeight < ExpGolomb.unsignedLimit
  lumaDepthMinus8_le : set.lumaDepthMinus8 ≤ 8
  chromaDepthMinus8_le : set.chromaDepthMinus8 ≤ 8
  log2MaxPictureOrderMinus4_le : set.log2MaxPictureOrderMinus4 ≤ 12
  ordering_length : set.ordering.length = set.maxSubLayersMinus1 + 1
  blocks : set.blocks.Consistent
  candidates_length_le : ∀ candidates, set.longTermCandidates = some candidates →
    candidates.length ≤ 32

theorem yields_longTermDecoder (width : Nat) : Yields (longTermDecoder width) (·.length ≤ 32) :=
  Yields.bind Yields.boundedUnsigned fun count count_le =>
    (Yields.replicate count _).weaken fun _ length_eq => length_eq ▸ count_le

theorem yields_bounded : Yields fields Bounded := by
  rw [fields]
  iterate 5 refine Yields.behind fun _ => ?_
  refine Yields.bind Yields.boundedUnsigned fun chroma chroma_le => ?_
  refine Yields.bind Yields.whenElse_absent fun separatePlanes notSeparate => ?_
  refine Yields.bind Yields.unsigned fun codedWidth codedWidth_lt => ?_
  refine Yields.bind Yields.unsigned fun codedHeight codedHeight_lt => ?_
  iterate 2 refine Yields.behind fun _ => ?_
  refine Yields.bind Yields.boundedUnsigned fun lumaDepthMinus8 lumaDepthMinus8_le => ?_
  refine Yields.bind Yields.boundedUnsigned fun chromaDepthMinus8 chromaDepthMinus8_le => ?_
  refine Yields.bind Yields.boundedUnsigned fun log2MaxPictureOrderMinus4 pictureOrder_le => ?_
  refine Yields.behind fun _ => ?_
  refine Yields.bind (SubLayerOrdering.yields_listDecoder _ _) fun ordering length_eq => ?_
  refine Yields.bind BlockSizes.yields_decoder fun blocks consistent => ?_
  iterate 8 refine Yields.behind fun _ => ?_
  refine Yields.bind (Yields.optional (yields_longTermDecoder _)) fun candidates length_le => ?_
  iterate 5 refine Yields.behind fun _ => ?_
  refine Yields.done ⟨chroma_le, ?_, codedWidth_lt, codedHeight_lt, lumaDepthMinus8_le,
    chromaDepthMinus8_le, pictureOrder_le, length_eq, consistent, length_le⟩
  intro isSeparate
  by_contra notPlanes
  rw [notSeparate (beq_false_of_ne notPlanes)] at isSeparate
  cases isSeparate

/-- The bounds hold also in a set that was decoded only up to its extensions. -/
theorem bounded_of_keepDecoded {unit : List UInt8} {set : SequenceParameterSet}
    (isDecoded : Interruption.keepDecoded (ofUnit unit) = .ok set) : set.Bounded :=
  of_keepDecoded yields_bounded isDecoded

end SequenceParameterSet

end CodedVideo.Hevc
