import CodedVideo.Hevc.ProfileTierLevel
import CodedVideo.Proofs.Bits.Strings
import CodedVideo.Proofs.Decoder.Yields
import CodedVideo.Proofs.DottedText
import Mathlib.Data.List.TakeWhile

/-!
# What HEVC codec strings say

A codec string names a profile, its compatibility, a tier, a level and constraints, each behind a
dot. It says all of them, although it leaves out leading zeros of numbers and the zero bytes at the
end of the constraints: there are six of them, so as many as are missing have been left out.

Main statement: `ProfileTierLevel.codecString_determines`.
-/

namespace CodedVideo.Hevc

open Decoder (Yields)

namespace ProfileTierLevel

/-! ## Parts -/

/-- The parts of a codec string behind the sample entry. -/
def codecParts (level : ProfileTierLevel) : List (List Char) :=
  [(spaceLetter level.block.space).toList ++ (toString level.block.idc).toList,
      (Hexadecimal.upper (Bits.toNat (Bits.ofNat 32 level.block.compatibility).reverse)).toList,
      level.tier.letter.toList ++ (toString level.levelIdc).toList] ++
    (constraintBytes level.block.constraints).map fun byte => (Hexadecimal.upper byte).toList

/-- Each part stands behind a dot. -/
theorem toList_codecString (level : ProfileTierLevel) (sampleEntry : String) :
    (level.codecString sampleEntry).toList =
      sampleEntry.toList ++ level.codecParts.flatMap ('.' :: ·) := by
  simp only [codecString, codecParts, String.toList_append, String.toList_join, List.flatMap_append,
    List.flatMap_map, List.flatMap_cons, List.flatMap_nil, tier]
  simp

/-! ## Letters -/

theorem spaceLetter_injective {space other : Nat} (inRange : space ≤ 3) (otherInRange : other ≤ 3)
    (letter_eq : (spaceLetter space).toList = (spaceLetter other).toList) : space = other := by
  have distinct : ∀ first second : Fin 4,
      (spaceLetter first).toList = (spaceLetter second).toList → first = second := by
    decide
  exact congrArg Fin.val (distinct ⟨space, Nat.lt_succ_of_le inRange⟩
    ⟨other, Nat.lt_succ_of_le otherInRange⟩ letter_eq)

/-- Letters are neither dots nor digits. -/
def areLetters (chars : List Char) : Bool :=
  chars.all fun char => char != '.' && !char.isDigit

theorem isLetter_of_areLetters {chars : List Char} (areLetters_eq : areLetters chars = true)
    {char : Char} (isChar : char ∈ chars) : char ≠ '.' ∧ char.isDigit = false := by
  have holds := List.all_eq_true.mp areLetters_eq char isChar
  rwa [Bool.and_eq_true, bne_iff_ne, Bool.not_eq_true'] at holds

theorem mem_spaceLetter {space : Nat} {char : Char}
    (isChar : char ∈ (spaceLetter space).toList) : char ≠ '.' ∧ char.isDigit = false := by
  refine isLetter_of_areLetters ?_ isChar
  rw [spaceLetter.eq_def]
  split <;> rfl

theorem tierLetter_injective {tier other : Tier}
    (letter_eq : tier.letter.toList = other.letter.toList) : tier = other := by
  cases tier <;> cases other <;> first | rfl | cases letter_eq

theorem mem_tierLetter {tier : Tier} {char : Char} (isChar : char ∈ tier.letter.toList) :
    char ≠ '.' ∧ char.isDigit = false := by
  refine isLetter_of_areLetters ?_ isChar
  cases tier <;> rfl

/-! ## Flags -/

/-- The reversed compatibility flags, as a number, determine the flags. -/
theorem reversed_injective {flags other : Nat} (inRange : flags < 1 <<< 32)
    (otherInRange : other < 1 <<< 32)
    (number_eq : Bits.toNat (Bits.ofNat 32 flags).reverse =
      Bits.toNat (Bits.ofNat 32 other).reverse) : flags = other := by
  have bits_eq (flags : Nat) : Bits.ofNat 32 (Bits.toNat (Bits.ofNat 32 flags).reverse) =
      (Bits.ofNat 32 flags).reverse := by
    have restored := Bits.ofNat_toNat (Bits.ofNat 32 flags).reverse
    rwa [List.length_reverse, Bits.length_ofNat] at restored
  have reversed_eq := congrArg (Bits.ofNat 32) number_eq
  rw [bits_eq, bits_eq, List.reverse_inj] at reversed_eq
  have kept_eq := congrArg Bits.toNat reversed_eq
  rw [Bits.toNat_ofNat, Bits.toNat_ofNat] at kept_eq
  rwa [Nat.mod_eq_of_lt inRange, Nat.mod_eq_of_lt otherInRange] at kept_eq

/-- What is left of bytes without the zeros in front tells, with their number, all of them. -/
theorem eq_append_dropWhile (bytes : List Nat) :
    bytes = List.replicate (bytes.length - (bytes.dropWhile (· == 0)).length) 0 ++
      bytes.dropWhile (· == 0) := by
  have parts_eq := List.takeWhile_append_dropWhile (p := (· == 0)) (l := bytes)
  have areZero : ∀ byte ∈ bytes.takeWhile (· == 0), byte = 0 :=
    fun byte isByte => beq_iff_eq.mp (List.mem_takeWhile_imp (p := (· == 0)) isByte)
  have length_eq : bytes.length - (bytes.dropWhile (· == 0)).length =
      (bytes.takeWhile (· == 0)).length := by
    have sum_eq := congrArg List.length parts_eq
    rw [List.length_append] at sum_eq
    omega
  rw [length_eq, ← List.eq_replicate_of_mem areZero, parts_eq]

/-- Equally many bytes are known from those in front of the zeros at their end. -/
theorem eq_of_trimmed_eq {bytes others : List Nat} (length_eq : bytes.length = others.length)
    (trimmed_eq : (bytes.reverse.dropWhile (· == 0)).reverse =
      (others.reverse.dropWhile (· == 0)).reverse) : bytes = others := by
  rw [List.reverse_inj] at trimmed_eq
  rw [← List.reverse_inj, eq_append_dropWhile bytes.reverse, eq_append_dropWhile others.reverse,
    trimmed_eq, List.length_reverse, List.length_reverse, length_eq]

/-- The bytes of the constraint flags determine the flags. -/
theorem constraintBytes_injective {flags other : Nat} (inRange : flags < 1 <<< 48)
    (otherInRange : other < 1 <<< 48) (bytes_eq : constraintBytes flags = constraintBytes other) :
    flags = other := by
  have allBytes_eq := eq_of_trimmed_eq (by simp only [List.length_map]) bytes_eq
  have byte_eq : ∀ index ∈ [0, 1, 2, 3, 4, 5],
      flags >>> (8 * (5 - index)) % 256 = other >>> (8 * (5 - index)) % 256 :=
    List.map_inj_left.mp allBytes_eq
  simp only [List.forall_mem_cons, Nat.shiftRight_eq_div_pow] at byte_eq
  simp only [Nat.shiftLeft_eq] at inRange otherInRange
  omega

/-! ## Texts -/

/-- The fields have the widths in which they are coded. -/
structure InRange (level : ProfileTierLevel) : Prop where
  space_le : level.block.space ≤ 3
  idc_le : level.block.idc ≤ 31
  compatibility_lt : level.block.compatibility < 1 <<< 32
  constraints_lt : level.block.constraints < 1 <<< 48

theorem yields_inRange (profilePresent : Bool) (maxSubLayersMinus1 : Nat) :
    Yields (decoder profilePresent maxSubLayersMinus1) InRange := by
  have blocks : Yields ProfileBlock.decoder fun block => block.space ≤ 3 ∧ block.idc ≤ 31 ∧
      block.compatibility < 1 <<< 32 ∧ block.constraints < 1 <<< 48 := by
    refine Yields.bind (.bits 2) fun space space_lt => Yields.behind fun tierFlag => ?_
    refine Yields.bind (.bits 5) fun idc idc_lt => ?_
    refine Yields.bind (.bits 32) fun compatibility compatibility_lt => ?_
    refine Yields.bind (.wideBits 48) fun constraints constraints_lt => .done ?_
    exact ⟨Nat.le_of_lt_succ space_lt, Nat.le_of_lt_succ idc_lt, compatibility_lt, constraints_lt⟩
  refine Yields.within (Yields.bind (.optional blocks) fun profileBlock inRange => ?_)
  refine .behind fun levelIdc => .behind fun present => .behind fun _ => .behind fun subLayers => ?_
  cases profileBlock with
  | none =>
      have compatibility_lt : 0 < 1 <<< 32 := by decide
      have constraints_lt : 0 < 1 <<< 48 := by decide
      exact .done ⟨Nat.zero_le 3, Nat.zero_le 31, compatibility_lt, constraints_lt⟩
  | some block =>
      obtain ⟨space_le, idc_le, compatibility_lt, constraints_lt⟩ := inRange block rfl
      exact .done ⟨space_le, idc_le, compatibility_lt, constraints_lt⟩

theorem dot_notMem_codecParts (level : ProfileTierLevel) :
    ∀ part ∈ level.codecParts, '.' ∉ part := by
  intro part isPart isDot
  rcases List.mem_append.mp isPart with isFixed | isByte
  · simp only [List.mem_cons, List.not_mem_nil, or_false] at isFixed
    rcases isFixed with rfl | rfl | rfl
    · rcases List.mem_append.mp isDot with isLetter | isDigit
      · exact (mem_spaceLetter isLetter).1 rfl
      · exact dot_notMem_toString _ isDigit
    · exact Hexadecimal.dot_notMem_upper _ isDot
    · rcases List.mem_append.mp isDot with isLetter | isDigit
      · exact (mem_tierLetter isLetter).1 rfl
      · exact dot_notMem_toString _ isDigit
  · obtain ⟨byte, _, rfl⟩ := List.mem_map.mp isByte
    exact Hexadecimal.dot_notMem_upper byte isDot

/-- The parts determine the fields. -/
theorem eq_of_codecParts_eq {first second : ProfileTierLevel} (inRange : first.InRange)
    (otherInRange : second.InRange) (parts_eq : first.codecParts = second.codecParts) :
    first.block.space = second.block.space ∧ first.block.idc = second.block.idc ∧
      first.block.compatibility = second.block.compatibility ∧ first.tier = second.tier ∧
      first.levelIdc = second.levelIdc ∧ first.block.constraints = second.block.constraints := by
  simp only [codecParts, List.cons_append, List.nil_append, List.cons.injEq] at parts_eq
  obtain ⟨profile_eq, compatibility_eq, level_eq, bytes_eq⟩ := parts_eq
  obtain ⟨space_eq, idc_eq⟩ := append_toString_injective
    (fun _ isChar => (mem_spaceLetter isChar).2) (fun _ isChar => (mem_spaceLetter isChar).2)
    profile_eq
  obtain ⟨tier_eq, levelIdc_eq⟩ := append_toString_injective
    (fun _ isChar => (mem_tierLetter isChar).2) (fun _ isChar => (mem_tierLetter isChar).2) level_eq
  have constraints_eq :=
    List.map_injective_iff.mpr (fun _ _ => Hexadecimal.upper_injective) bytes_eq
  refine ⟨?_, idc_eq, ?_, tierLetter_injective tier_eq, levelIdc_eq, ?_⟩
  · exact spaceLetter_injective inRange.space_le otherInRange.space_le space_eq
  · exact reversed_injective inRange.compatibility_lt otherInRange.compatibility_lt
      (Hexadecimal.upper_injective compatibility_eq)
  · exact constraintBytes_injective inRange.constraints_lt otherInRange.constraints_lt
      constraints_eq

/-- Whatever is decoded has fields in range. For fields in range, behind whatever sample entry, codec
strings are the same exactly if the profile spaces, the profiles, all compatibility flags, the tiers,
the levels and all constraint flags are. -/
theorem codecString_determines :
    (∀ profilePresent maxSubLayersMinus1,
        Yields (decoder profilePresent maxSubLayersMinus1) InRange) ∧
      ∀ first second : ProfileTierLevel, first.InRange → second.InRange → ∀ sampleEntry : String,
        first.codecString sampleEntry = second.codecString sampleEntry ↔
          first.block.space = second.block.space ∧ first.block.idc = second.block.idc ∧
            first.block.compatibility = second.block.compatibility ∧ first.tier = second.tier ∧
            first.levelIdc = second.levelIdc ∧
            first.block.constraints = second.block.constraints := by
  refine ⟨yields_inRange, fun first second inRange otherInRange sampleEntry => ?_⟩
  constructor
  · intro string_eq
    have text_eq := congrArg String.toList string_eq
    rw [toList_codecString, toList_codecString] at text_eq
    have parts_eq := flatMap_dot_injective (dot_notMem_codecParts first)
      (dot_notMem_codecParts second) (List.append_cancel_left text_eq)
    exact eq_of_codecParts_eq inRange otherInRange parts_eq
  · rintro ⟨space_eq, idc_eq, compatibility_eq, tier_eq, levelIdc_eq, constraints_eq⟩
    rw [tier, tier] at tier_eq
    simp only [codecString, space_eq, idc_eq, compatibility_eq, tier_eq, levelIdc_eq,
      constraints_eq]

/-- A zero byte between two others is written, and those at the end are not. Without the last flag
that is set the codec string is another one. -/
theorem codecString_determines_innerZero :
    let first : ProfileTierLevel := {
      profileBlock := some {
        space := 1, tierFlag := true, idc := 4, compatibility := 0x08000000
        constraints := 0x900008000000 }
      levelIdc := 153, subLayers := [] }
    let second : ProfileTierLevel := {
      first with profileBlock := some { first.block with constraints := 0x900000000000 } }
    first.InRange ∧ second.InRange ∧ first.codecString "hvc1" = "hvc1.A4.10.H153.90.0.8" ∧
      second.codecString "hvc1" = "hvc1.A4.10.H153.90" ∧
      first.codecString "hvc1" ≠ second.codecString "hvc1" := by
  intro first second
  have inRange : first.InRange := ⟨by decide, by decide, by decide, by decide⟩
  have otherInRange : second.InRange := ⟨by decide, by decide, by decide, by decide⟩
  refine ⟨inRange, otherInRange, by decide, by decide, ?_⟩
  exact mt (codecString_determines.2 first second inRange otherInRange "hvc1").mp (by decide)

end ProfileTierLevel

end CodedVideo.Hevc
