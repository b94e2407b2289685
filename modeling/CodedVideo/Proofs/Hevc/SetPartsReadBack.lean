import CodedVideo.Hevc.Coding
import CodedVideo.Proofs.Hevc.SetGrammar
import CodedVideo.Proofs.NalUnit.WrittenUnit
import CodedVideo.Proofs.SharedCoding
import CodedVideo.Proofs.UnitHeaders

/-!
# Reading parts of HEVC parameter sets back

Profiles and levels, sub-layer ordering, extension flags and scaling lists stand in several kinds of
parameter sets. Each is consistent if it has the lengths that are known where it is decoded, and
what is not coded has the value that a reader assumes. They are written field by field and decoded
to themselves. So is a whole set whose fields are: it is all that is decoded in front of extensions,
and otherwise the trailing bits end its unit.

Main statements: `ProfileTierLevel.decodes_coding`, `ScalingLists.Explicit.decodes_coding`,
`decodeUnitPartly_written`.
-/

namespace CodedVideo.Hevc

open CodedField (flagged onlyIf present)
open Decoder (Decodes ReadsBack)

/-! ## Profiles, tiers and levels -/

theorem ProfileBlock.decodes_coding (block : ProfileBlock) :
    Decodes ProfileBlock.decoder block.coding block := by
  intro start stop
  refine ReadsBack.bind (.bits block.space 2) fun mid => ?_
  refine ReadsBack.bind (.flag block.tierFlag) fun mid => ?_
  refine ReadsBack.bind (.bits block.idc 5) fun mid => ?_
  refine ReadsBack.bind (.bits block.compatibility 32) fun mid => ?_
  exact ReadsBack.bind_last (.wideBits block.constraints 48) (.done block)

namespace SubLayerLevel

/-- What a sub-layer states. -/
def presence (subLayer : SubLayerLevel) : Bool × Bool :=
  (subLayer.profile.isSome, subLayer.levelIdc.isSome)

theorem decodes_presenceCoding (subLayers : List SubLayerLevel) :
    Decodes (Decoder.replicate subLayers.length ProfileTierLevel.presenceFlags)
      (subLayers.flatMap presenceCoding) (subLayers.map presence) := by
  have flagsRead (flags : Bool × Bool) :
      Decodes ProfileTierLevel.presenceFlags [.flag flags.1, .flag flags.2] flags := by
    intro start stop
    refine ReadsBack.bind (.flag flags.1) fun mid => ?_
    exact ReadsBack.bind_last (.flag flags.2) (.done flags)
  have reads := Decodes.replicate (List.length_map presence) fun flags
    (_ : flags ∈ subLayers.map presence) => flagsRead flags
  rw [List.flatMap_map] at reads
  exact reads

theorem decodes_coding (subLayer : SubLayerLevel) :
    Decodes (ProfileTierLevel.subLayerDecoder subLayer.presence) subLayer.coding subLayer := by
  intro start stop
  refine ReadsBack.bind (.optional rfl fun profile _ => profile.decodes_coding) fun mid => ?_
  exact ReadsBack.bind_last (.optional rfl fun levelIdc _ => .bits levelIdc 8) (.done subLayer)

end SubLayerLevel

namespace ProfileTierLevel

/-- The profile is there where it is coded, and each sub-layer below the highest has an entry. -/
structure ConsistentWith (level : ProfileTierLevel) (profilePresent : Bool)
    (maxSubLayersMinus1 : Nat) : Prop where
  profileBlock : level.profileBlock.isSome = profilePresent
  subLayers_length : level.subLayers.length = maxSubLayersMinus1

/-- The flags of missing sub-layers are read and dropped. -/
theorem exists_decodes_reserved {α : Type} (subLayers : List α) :
    ∃ reserved : List Nat,
      Decodes
        (Decoder.whenElse (subLayers.length != 0) []
          (Decoder.replicate (8 - subLayers.length) (Decoder.bits 2)))
        (onlyIf (!subLayers.isEmpty) (List.replicate (8 - subLayers.length) (.bits 0 2)))
        reserved := by
  cases subLayers with
  | nil => exact ⟨[], .done []⟩
  | cons subLayer subLayers =>
      have reads : Decodes (Decoder.replicate (8 - (subLayers.length + 1)) (Decoder.bits 2))
          ((List.replicate (8 - (subLayers.length + 1)) 0).map (.bits · 2))
          (List.replicate (8 - (subLayers.length + 1)) 0) :=
        .replicate_map List.length_replicate fun value => .bits value 2
      rw [List.map_replicate] at reads
      exact ⟨_, reads⟩

theorem decodes_coding {level : ProfileTierLevel} {profilePresent : Bool}
    {maxSubLayersMinus1 : Nat}
    (consistent : level.ConsistentWith profilePresent maxSubLayersMinus1) :
    Decodes (decoder profilePresent maxSubLayersMinus1) level.coding level := by
  rcases consistent with ⟨profileBlock_eq, rfl⟩
  obtain ⟨reserved, reservedRead⟩ := exists_decodes_reserved level.subLayers
  apply Decodes.within
  simp only [coding, List.append_assoc, List.cons_append, List.nil_append]
  intro start stop
  refine ReadsBack.bind (.optional profileBlock_eq fun block _ => block.decodes_coding)
    fun mid => ?_
  refine ReadsBack.bind (.bits level.levelIdc 8) fun mid => ?_
  refine ReadsBack.bind (SubLayerLevel.decodes_presenceCoding level.subLayers) fun mid => ?_
  refine ReadsBack.bind reservedRead fun mid => ?_
  exact ReadsBack.bind_last (.each fun subLayer _ => subLayer.decodes_coding) (.done level)

end ProfileTierLevel

/-! ## Sub-layers and extensions -/

namespace SubLayerOrdering

/-- There is an entry for each sub-layer. Where only the highest is coded, all are alike. -/
structure ListConsistent (eachCoded : Bool) (maxSubLayersMinus1 : Nat)
    (ordering : List SubLayerOrdering) : Prop where
  length_eq : ordering.length = maxSubLayersMinus1 + 1
  inferred : eachCoded = false → ∀ entry ∈ ordering, ordering.getLast? = some entry

theorem decodes_coding (ordering : SubLayerOrdering) : Decodes decoder ordering.coding ordering := by
  intro start stop
  refine ReadsBack.bind (.unsigned ordering.maxStoredPicturesMinus1) fun mid => ?_
  refine ReadsBack.bind (.unsigned ordering.maxReorderedPictures) fun mid => ?_
  exact ReadsBack.bind_last (.unsigned ordering.maxLatencyIncreasePlus1) (.done ordering)

/-- Behind the flag that says whether each sub-layer is coded, those that are coded are read back.
-/
theorem ListConsistent.decodes {eachCoded : Bool} {maxSubLayersMinus1 : Nat}
    {ordering : List SubLayerOrdering}
    (consistent : ListConsistent eachCoded maxSubLayersMinus1 ordering) :
    Decodes (listDecoder eachCoded maxSubLayersMinus1)
      (if eachCoded then ordering.flatMap coding else present coding ordering.getLast?)
      ordering := by
  rcases consistent with ⟨length_eq, inferred⟩
  cases eachCoded with
  | true => exact .replicate length_eq fun entry _ => entry.decodes_coding
  | false =>
      have notEmpty : ordering ≠ [] := List.ne_nil_of_length_eq_add_one length_eq
      have last_eq := List.getLast?_eq_some_getLast notEmpty
      have allAlike : ordering =
          List.replicate (maxSubLayersMinus1 + 1) (ordering.getLast notEmpty) := by
        refine List.eq_replicate_iff.mpr ⟨length_eq, fun entry isEntry => ?_⟩
        exact (Option.some.inj (last_eq.symm.trans (inferred rfl entry isEntry))).symm
      intro start stop
      rw [last_eq]
      refine ReadsBack.bind_last (ordering.getLast notEmpty).decodes_coding ?_
      rw [← allAlike]
      exact ReadsBack.done ordering

end SubLayerOrdering

/-- Flags none of which is set are those that a reader assumes. -/
theorem ExtensionFlags.eq_of_any_eq_false {flags : ExtensionFlags} (noneSet : flags.any = false) :
    flags = {} := by
  rcases flags with ⟨range, multilayer, threeD, screenContent, others⟩
  simp_all [any, beyondRange]

theorem ExtensionFlags.decodes_coding (flags : ExtensionFlags) :
    Decodes ExtensionFlags.decoder flags.coding flags := by
  intro start stop
  refine ReadsBack.bind (.flag flags.any) fun mid => ?_
  refine Decodes.whenElse ?_ eq_of_any_eq_false mid stop
  intro start stop
  refine ReadsBack.bind (.flag flags.range) fun mid => ?_
  refine ReadsBack.bind (.flag flags.multilayer) fun mid => ?_
  refine ReadsBack.bind (.flag flags.threeD) fun mid => ?_
  refine ReadsBack.bind (.flag flags.screenContent) fun mid => ?_
  exact ReadsBack.bind_last (.bits flags.others 4) (.done flags)

/-! ## Scaling lists -/

namespace ScalingList

/-- The place of a list. -/
def place (list : ScalingList) : Nat × Nat :=
  (list.sizeId, list.matrixId)

/-- The list is coded itself: it has as many coefficients as its size asks for, and a coefficient of
the constant part if it is one of the two greatest sizes. -/
structure Explicit (list : ScalingList) : Prop where
  isExplicit : list.isExplicit = true
  coefficients_length : list.coefficients.length = coefficientCount list.sizeId
  coefficients : ∀ coefficient ∈ list.coefficients, coefficient < 256
  hasConstant : list.constantCoefficient.isSome = decide (1 < list.sizeId)
  constant : ∀ coefficient ∈ list.constantCoefficient, 1 ≤ coefficient ∧ coefficient < 256

theorem decodes_constant {coefficient : Nat} (inRange : 1 ≤ coefficient ∧ coefficient < 256) :
    Decodes constantDecoder [.signed ((coefficient : Int) - 8)] coefficient := by
  have isCoded : decide (-7 ≤ (coefficient : Int) - 8) && decide ((coefficient : Int) - 8 ≤ 247) := by
    rw [Bool.and_eq_true, decide_eq_true_iff, decide_eq_true_iff]
    omega
  intro start stop
  refine ReadsBack.bind_last (.signed ((coefficient : Int) - 8)) ?_
  refine ReadsBack.bind_first (.require isCoded) ?_
  rw [Int.sub_add_cancel, Int.toNat_natCast]
  exact ReadsBack.done coefficient

theorem decodes_difference (entry next : Nat) :
    Decodes differenceDecoder [.signed (ByteDifference.between entry next)]
      (ByteDifference.between entry next) := by
  have inRange := ByteDifference.between_bounds entry next
  intro start stop
  refine ReadsBack.bind_last (.signed _) ?_
  refine ReadsBack.bind_first (.require ?_) (.done _)
  rw [Bool.and_eq_true, decide_eq_true_iff, decide_eq_true_iff]
  exact inRange

/-- Coefficients are decoded behind the others. -/
theorem decodes_along {coefficients : List Nat}
    (areBytes : ∀ coefficient ∈ coefficients, coefficient < 256) (last : Nat)
    (others : List Nat) :
    Decodes (coefficientsAfter coefficients.length last others)
      ((ByteDifference.along last coefficients).map .signed) (others.reverse ++ coefficients) := by
  induction coefficients generalizing last others with
  | nil =>
      rw [List.append_nil]
      exact .done others.reverse
  | cons coefficient coefficients inductionHypothesis =>
      rw [List.forall_mem_cons] at areBytes
      have following := inductionHypothesis areBytes.2 coefficient (coefficient :: others)
      rw [List.reverse_cons, List.append_assoc] at following
      intro start stop
      refine ReadsBack.bind (decodes_difference last coefficient) fun mid => ?_
      rw [ByteDifference.next_between last areBytes.1]
      exact following mid stop

theorem Explicit.decodes_coding {list : ScalingList} (explicit : list.Explicit)
    (lists : List ScalingList) : Decodes (decoder lists list.place) list.coding list := by
  rcases list with ⟨sizeId, matrixId, isExplicit, coefficients, constantCoefficient⟩
  rcases explicit with ⟨rfl, length_eq, areBytes, hasConstant, constantInRange⟩
  have coefficientsRead := decodes_along areBytes (constantCoefficient.getD 8) []
  rw [length_eq] at coefficientsRead
  simp only [coding, List.cons_append, List.nil_append]
  intro start stop
  refine ReadsBack.bind (.flag true) fun mid => ?_
  refine ReadsBack.bind (.optional hasConstant fun coefficient isThere =>
    decodes_constant (constantInRange coefficient isThere)) fun mid => ?_
  exact ReadsBack.bind_last coefficientsRead (.done _)

end ScalingList

namespace ScalingLists

/-- All lists are coded themselves, at their places. -/
structure Explicit (lists : ScalingLists) : Prop where
  places : lists.lists.map ScalingList.place = ScalingList.places
  explicit : ∀ list ∈ lists.lists, list.Explicit

theorem decodes_listsAfter {lists : List ScalingList} (explicit : ∀ list ∈ lists, list.Explicit)
    (others : List ScalingList) :
    Decodes (listsAfter others (lists.map ScalingList.place)) (lists.flatMap ScalingList.coding)
      (others ++ lists) := by
  induction lists generalizing others with
  | nil =>
      rw [List.append_nil]
      exact .done others
  | cons list lists inductionHypothesis =>
      rw [List.forall_mem_cons] at explicit
      have following := inductionHypothesis explicit.2 (others ++ [list])
      rw [List.append_assoc] at following
      intro start stop
      refine ReadsBack.bind (explicit.1.decodes_coding others) fun mid => ?_
      exact following mid stop

theorem Explicit.decodes_coding {lists : ScalingLists} (explicit : lists.Explicit) :
    Decodes decoder lists.coding lists := by
  apply Decodes.within
  intro start stop
  rw [← explicit.places]
  exact ReadsBack.bind_last (decodes_listsAfter explicit.explicit []) (.done lists)

end ScalingLists

/-! ## Whole sets -/

/-- The fields of a set are read back behind a header that names the set. -/
theorem decodes_setDecoder {α : Type} {header : NalHeader}
    (typeOfCode : NalUnitType.ofCode header.unitType.code = header.unitType)
    (temporalIdPlus1 : header.temporalIdPlus1 ≠ 0) {structureName : String} {fields : Decoder α}
    {coding : List CodedField} {set : α} (reads : Decodes fields coding set) :
    Decodes (setDecoder header.unitType structureName fields) (header.coding ++ coding) set := by
  intro start stop
  refine ReadsBack.bind (NalHeader.decodes_coding typeOfCode temporalIdPlus1) fun mid => ?_
  refine ReadsBack.bind_first (.require (beq_self_eq_true _)) ?_
  exact Decodes.within reads mid stop

/-- What is read back from fields is followed by trailing bits, or by data that is not read, and is
decoded from the unit of both. -/
theorem decodeUnit_written {α β : Type} {first : Decoder α} {next : α → Decoder β}
    {coding : List CodedField} {set : α} {value : β} (reads : Decodes first coding set)
    (exact : ∀ field ∈ coding, field.Exact) (structureName : String) {extended : Bool}
    (stops : extended = true → next set = Decoder.done value)
    (closes : extended = false → next set =
      (Decoder.located structureName Decoder.trailingBits).bind fun _ => Decoder.done value)
    (extension : List Bool) :
    ∃ unit, CodedField.toUnit (coding ++ if extended then extension.map .flag else [.trailing]) =
        .ok unit ∧
      (first.bind next).decodeUnit unit = .ok value := by
  cases extended with
  | true =>
      have wholeReads : ReadsBack (first.bind next) coding value 0
          (CodedField.codeAll coding 0).length := by
        refine ReadsBack.bind_last reads ?_
        rw [stops rfl]
        exact ReadsBack.done value
      exact Decoder.decodeUnit_toUnit wholeReads exact rfl
        (CodedField.fits_of_mem_map_flag extension)
  | false =>
      have wholeReads : Decoder.ReadsToEnd (first.bind next) (coding ++ [.trailing]) value 0 := by
        refine Decoder.ReadsToEnd.bind reads fun mid => ?_
        rw [closes rfl]
        exact Decoder.ReadsToEnd.bind_last (.within .trailingBits) rfl
      have allExact : ∀ field ∈ coding ++ [.trailing], field.Exact := by
        rw [List.forall_mem_append, List.forall_mem_singleton]
        exact ⟨exact, by decide⟩
      exact Decoder.decodeUnit_toUnit_trailing wholeReads allExact

/-- A set is written to a unit, and the unit is decoded to that set. Where the set has extensions,
it is all that is decoded, whatever data follows. -/
theorem decodeUnitPartly_written {α : Type} {setFields : Decoder α} {coding : List CodedField}
    {set : α} (reads : Decodes setFields coding set) (exact : ∀ field ∈ coding, field.Exact)
    (structureName feature : String) (extended : α → Bool) (extension : List Bool) :
    ∃ unit, CodedField.toUnit (coding ++
          if extended set then extension.map .flag else [.trailing]) = .ok unit ∧
      (setFields.bind (closeDecoder structureName feature extended)).decodeUnitPartly unit =
        if extended set then .error (.stopped set (.unsupported structureName feature))
        else .ok set := by
  have stops (isExtended : extended set = true) :
      closeDecoder structureName feature extended set =
        Decoder.done (set, if extended set then some (.unsupported structureName feature)
          else none) := by
    rw [closeDecoder, if_pos isExtended, if_pos isExtended]
    rfl
  have closes (notExtended : extended set = false) :
      closeDecoder structureName feature extended set =
        (Decoder.located structureName Decoder.trailingBits).bind fun _ =>
          Decoder.done (set, if extended set then some (.unsupported structureName feature)
            else none) := by
    rw [closeDecoder, notExtended]
    rfl
  obtain ⟨unit, unit_eq, decoded⟩ :=
    decodeUnit_written reads exact structureName stops closes extension
  refine ⟨unit, unit_eq, ?_⟩
  rw [Decoder.decodeUnitPartly, decoded]
  cases extended set with
  | true => rfl
  | false => rfl

/-- A set whose fields are read back is written to a unit behind a header that names it, and the unit
is decoded to that set. Where the set has extensions, it is all that is decoded, whatever data
follows. -/
theorem decodeUnitPartly_written_set {α : Type} {unitType : NalUnitType}
    (typeOfCode : NalUnitType.ofCode unitType.code = unitType) (code_lt : unitType.code < 64)
    {layerId temporalIdPlus1 : Nat} (layerId_lt : layerId < 64)
    (temporalIdPlus1_ne : temporalIdPlus1 ≠ 0) (temporalIdPlus1_lt : temporalIdPlus1 < 8)
    {fields : Decoder α} {coding : List CodedField} {set : α} (reads : Decodes fields coding set)
    (exact : ∀ field ∈ coding, field.Exact) (structureName feature : String)
    (extended : α → Bool) (extension : List Bool) :
    ∃ unit, CodedField.toUnit
          (({ unitType, layerId, temporalIdPlus1 } : NalHeader).coding ++ coding ++
            if extended set then extension.map .flag else [.trailing]) = .ok unit ∧
      ((setDecoder unitType structureName fields).bind
          (closeDecoder structureName feature extended)).decodeUnitPartly unit =
        if extended set then .error (.stopped set (.unsupported structureName feature))
        else .ok set := by
  have unitReads : Decodes (setDecoder unitType structureName fields)
      (({ unitType, layerId, temporalIdPlus1 } : NalHeader).coding ++ coding) set :=
    decodes_setDecoder typeOfCode temporalIdPlus1_ne reads
  have unitExact : ∀ field ∈ ({ unitType, layerId, temporalIdPlus1 } : NalHeader).coding ++ coding,
      field.Exact :=
    List.forall_mem_append.mpr
      ⟨NalHeader.exact_coding code_lt layerId_lt temporalIdPlus1_lt, exact⟩
  exact decodeUnitPartly_written unitReads unitExact structureName feature extended extension

end CodedVideo.Hevc
