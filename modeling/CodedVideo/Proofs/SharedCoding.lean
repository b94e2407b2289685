import CodedVideo.ByteDifference
import CodedVideo.Coding
import CodedVideo.Proofs.Decoder.ReadsBack

/-!
# Decoding the coding of shared structures

Main statements: `Weight.decodes_pairCoding`, `SignalDescription.decodes_coding`.
-/

namespace CodedVideo

open CodedField (flagged)
open Decoder (Decodes ReadsBack)

/-! ## Differences of bytes -/

namespace ByteDifference

/-- The difference between two entries leads from the one to the other. -/
theorem next_between (entry : Nat) {following : Nat} (isByte : following < 256) :
    next entry (between entry following) = following := by
  have congruent : ((following : Int) - entry).bmod 256 % 256 = (following - entry) % 256 :=
    Int.bmod_emod
  rw [next, between]
  omega

/-- The difference between two entries fits a signed byte. -/
theorem between_bounds (entry following : Nat) :
    -128 ≤ between entry following ∧ between entry following ≤ 127 := by
  have lower := Int.le_bmod (x := (following : Int) - entry) (m := 256) (by decide)
  have upper := Int.bmod_lt (x := (following : Int) - entry) (m := 256) (by decide)
  rw [between]
  omega

theorem natCast_next (entry : Nat) (difference : Int) :
    (next entry difference : Int) = (entry + difference) % 256 :=
  Int.toNat_of_nonneg (Int.emod_nonneg _ (by decide))

theorem next_le (entry : Nat) (difference : Int) : next entry difference ≤ 255 := by
  have cast_eq := natCast_next entry difference
  omega

theorem next_eq_zero_iff {entry : Nat} {difference : Int} :
    next entry difference = 0 ↔ (entry + difference) % 256 = 0 := by
  have cast_eq := natCast_next entry difference
  omega

end ByteDifference

/-! ## Windows and weights -/

theorem Window.decodes_coding (window : Window) : Decodes Window.decoder window.coding window := by
  intro start stop
  refine ReadsBack.bind (.unsigned window.left) fun mid => ?_
  refine ReadsBack.bind (.unsigned window.right) fun mid => ?_
  refine ReadsBack.bind (.unsigned window.top) fun mid => ?_
  exact ReadsBack.bind_last (.unsigned window.bottom) (.done window)

theorem Weight.decodes_coding (weight : Weight) : Decodes Weight.decoder weight.coding weight := by
  intro start stop
  refine ReadsBack.bind (.signed weight.factor) ?_
  intro mid
  refine ReadsBack.bind_last (.signed weight.offset) ?_
  exact ReadsBack.done weight

theorem Weight.decodes_pairCoding (weights : Weight × Weight) :
    Decodes Weight.pairDecoder (Weight.pairCoding weights) weights := by
  intro start stop
  refine ReadsBack.bind weights.1.decodes_coding ?_
  intro mid
  refine ReadsBack.bind_last weights.2.decodes_coding ?_
  exact ReadsBack.done weights

/-! ## Signal descriptions -/

/-- Only the extended index is followed by a ratio; behind any other index the ratio is the one that
the index names. -/
def CodedAspectRatio.Consistent (aspect : CodedAspectRatio) : Prop :=
  aspect.index ≠ AspectRatio.extended →
    aspect.ratio = (AspectRatio.ofIndex? aspect.index).getD { width := 0, height := 0 }

theorem CodedAspectRatio.decodes_coding {aspect : CodedAspectRatio}
    (consistent : aspect.Consistent) :
    Decodes CodedAspectRatio.decoder aspect.coding aspect := by
  rcases aspect with ⟨index, ratio⟩
  intro start stop
  refine ReadsBack.bind (.bits index 8) fun mid => ?_
  by_cases isExtended : index = AspectRatio.extended
  · subst isExtended
    refine ReadsBack.bind (.bits ratio.width 16) fun mid => ?_
    exact ReadsBack.bind_last (.bits ratio.height 16) (.done _)
  · have ratio_eq : ratio = _ := consistent isExtended
    simp only [beq_iff_eq, isExtended, if_false, ← ratio_eq]
    exact ReadsBack.done _

theorem ColourDescription.decodes_coding (colour : ColourDescription) :
    Decodes ColourDescription.decoder colour.coding colour := by
  intro start stop
  refine ReadsBack.bind (.bits colour.primaries 8) fun mid => ?_
  refine ReadsBack.bind (.bits colour.transferCharacteristics 8) fun mid => ?_
  exact ReadsBack.bind_last (.bits colour.matrixCoefficients 8) (.done colour)

theorem VideoSignalType.decodes_coding (signalType : VideoSignalType) :
    Decodes VideoSignalType.decoder signalType.coding signalType := by
  simp only [coding, List.cons_append, List.nil_append]
  intro start stop
  refine ReadsBack.bind (.bits signalType.format 3) fun mid => ?_
  refine ReadsBack.bind (.flag signalType.fullRange) fun mid => ?_
  exact ReadsBack.optionalBehindFlag_last (fun colour _ => colour.decodes_coding)
    (.done signalType)

theorem ChromaLocation.decodes_coding (location : ChromaLocation) :
    Decodes ChromaLocation.decoder location.coding location := by
  intro start stop
  refine ReadsBack.bind (.unsigned location.topField) fun mid => ?_
  exact ReadsBack.bind_last (.unsigned location.bottomField) (.done location)

/-- The ratio of a description is consistent with its index. -/
def SignalDescription.Consistent (description : SignalDescription) : Prop :=
  ∀ aspect ∈ description.aspectRatio, aspect.Consistent

theorem SignalDescription.decodes_coding {description : SignalDescription}
    (consistent : description.Consistent) :
    Decodes SignalDescription.decoder description.coding description := by
  simp only [coding, List.append_assoc]
  intro start stop
  refine ReadsBack.optionalBehindFlag_bind (fun aspect isThere =>
    aspect.decodes_coding (consistent aspect isThere)) fun mid => ?_
  refine ReadsBack.optionalBehindFlag_bind (fun overscan _ => .flag overscan) fun mid => ?_
  refine ReadsBack.optionalBehindFlag_bind (fun signalType _ => signalType.decodes_coding)
    fun mid => ?_
  exact ReadsBack.optionalBehindFlag_last (fun location _ => location.decodes_coding)
    (.done description)

end CodedVideo
