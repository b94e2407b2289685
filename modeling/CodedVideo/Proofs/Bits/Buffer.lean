import CodedVideo.Bits.Buffer
import CodedVideo.Proofs.Bits.Strings

/-!
# Buffers as bit strings

A bit string of less than 64 bits fits into a buffer. Shifts and masks then do to the word what is
done to the string: putting bits behind it appends them, and taking the first bits splits it.
-/

namespace CodedVideo

/-! ## Masks -/

/-- A mask keeps the low bits. -/
theorem toNat_and_lowMask (word : UInt64) {width : UInt8} (fits : width.toNat < 64) :
    (word &&& lowMask width).toNat = word.toNat % 1 <<< width.toNat := by
  have notFull : ¬ 64 ≤ width := by
    rw [UInt8.le_iff_toNat_le]
    exact Nat.not_le.mpr fits
  have one_eq : (1 : UInt64).toNat = 1 := rfl
  have power_lt : 1 <<< width.toNat < 18446744073709551616 := by
    rw [Nat.shiftLeft_eq, Nat.one_mul]
    exact Nat.pow_lt_pow_right Nat.one_lt_two fits
  have power_eq : ((1 : UInt64) <<< width.toUInt64).toNat = 1 <<< width.toNat := by
    rw [UInt64.toNat_shiftLeft, UInt8.toNat_toUInt64, Nat.mod_eq_of_lt fits, one_eq]
    exact Nat.mod_eq_of_lt power_lt
  have power_pos : 1 ≤ 1 <<< width.toNat := by
    rw [Nat.shiftLeft_eq, Nat.one_mul]
    exact Nat.one_le_two_pow
  have one_le : (1 : UInt64) ≤ 1 <<< width.toUInt64 := by
    rw [UInt64.le_iff_toNat_le, power_eq]
    exact power_pos
  rw [lowMask, if_neg notFull, UInt64.toNat_and, UInt64.toNat_sub_of_le _ _ one_le, power_eq, one_eq,
    Nat.shiftLeft_eq, Nat.one_mul]
  exact Nat.and_two_pow_sub_one_eq_mod _ _

/-! ## Bits of a buffer -/

namespace BitBuffer

/-- The buffer in which a bit string waits. -/
def ofBits (bits : List Bool) : BitBuffer where
  accumulator := UInt64.ofNat (Bits.toNat bits)
  count := UInt8.ofNat bits.length

/-- A buffer holds a bit string if its word and its count are those of the string. -/
theorem eq_ofBits {bits : List Bool} {buffer : BitBuffer}
    (accumulator_eq : buffer.accumulator.toNat = Bits.toNat bits)
    (count_eq : buffer.count.toNat = bits.length) : buffer = ofBits bits := by
  rcases buffer with ⟨accumulator, count⟩
  rw [ofBits, ← accumulator_eq, ← count_eq, UInt64.ofNat_toNat, UInt8.ofNat_toNat]

section

variable {bits : List Bool} (fits : bits.length < 64)

include fits

theorem toNat_count_ofBits : (ofBits bits).count.toNat = bits.length :=
  UInt8.toNat_ofNat_of_lt' (Nat.lt_trans fits (by decide))

theorem toNat_accumulator_ofBits : (ofBits bits).accumulator.toNat = Bits.toNat bits := by
  apply UInt64.toNat_ofNat_of_lt'
  refine Nat.lt_trans (Bits.toNat_lt bits) ?_
  rw [Nat.shiftLeft_eq, Nat.one_mul]
  exact Nat.pow_lt_pow_right Nat.one_lt_two fits

end

/-- The bits that are put into a buffer stand behind the others. -/
theorem push_ofBits {held more : List Bool} (fits : held.length + more.length < 64) {value : UInt64}
    (value_eq : value.toNat = Bits.toNat more) {width : UInt8} (width_eq : width.toNat = more.length) :
    (ofBits held).push value width = ofBits (held ++ more) := by
  have whole_fits : (held ++ more).length < 64 := by rwa [List.length_append]
  have below := Bits.toNat_lt more
  have whole_lt := Bits.toNat_lt (held ++ more)
  have power_lt : 1 <<< (held ++ more).length < 18446744073709551616 := by
    rw [Nat.shiftLeft_eq, Nat.one_mul]
    exact Nat.pow_lt_pow_right Nat.one_lt_two whole_fits
  have shifted_lt : Bits.toNat held <<< more.length < 18446744073709551616 := by
    rw [Bits.toNat_append] at whole_lt
    omega
  rw [Nat.shiftLeft_eq, Nat.one_mul] at below
  apply eq_ofBits
  · rw [push, UInt64.toNat_or, UInt64.toNat_shiftLeft, UInt8.toNat_toUInt64, width_eq, value_eq,
      toNat_accumulator_ofBits (by omega), Nat.mod_eq_of_lt (by omega : more.length < 64),
      Bits.toNat_append, Nat.shiftLeft_add_eq_or_of_lt below]
    congr 1
    exact Nat.mod_eq_of_lt shifted_lt
  · rw [push, UInt8.toNat_add, toNat_count_ofBits (by omega), width_eq, List.length_append]
    exact Nat.mod_eq_of_lt (by omega)

/-- The first bits are taken from the front of the string, and the others wait. -/
theorem take_ofBits {front back : List Bool} (fits : front.length + back.length < 64)
    {width : UInt8} (width_eq : width.toNat = front.length) :
    (ofBits (front ++ back)).take width = (UInt64.ofNat (Bits.toNat front), ofBits back) := by
  have whole_fits : (front ++ back).length < 64 := by rwa [List.length_append]
  have count_eq : ((ofBits (front ++ back)).count - width).toNat = back.length := by
    rw [UInt8.toNat_sub_of_le, toNat_count_ofBits whole_fits, width_eq, List.length_append,
      Nat.add_sub_cancel_left]
    rw [UInt8.le_iff_toNat_le, toNat_count_ofBits whole_fits, width_eq, List.length_append]
    exact Nat.le_add_right _ _
  have front_lt := Bits.toNat_lt front
  have back_lt := Bits.toNat_lt back
  have whole_eq : (ofBits (front ++ back)).accumulator.toNat =
      Bits.toNat front <<< back.length + Bits.toNat back := by
    rw [toNat_accumulator_ofBits whole_fits, Bits.toNat_append]
  have front_eq : (Bits.toNat front <<< back.length + Bits.toNat back) >>> back.length =
      Bits.toNat front := by
    rw [Nat.shiftLeft_eq] at back_lt ⊢
    rw [Nat.one_mul] at back_lt
    rw [Nat.shiftRight_eq_div_pow, Nat.mul_comm, Nat.mul_add_div (Nat.two_pow_pos _),
      Nat.div_eq_of_lt back_lt, Nat.add_zero]
  have back_eq : (Bits.toNat front <<< back.length + Bits.toNat back) % 1 <<< back.length =
      Bits.toNat back := by
    rw [Nat.shiftLeft_eq, Nat.shiftLeft_eq, Nat.one_mul, Nat.mul_add_mod_of_lt]
    rwa [Nat.shiftLeft_eq, Nat.one_mul] at back_lt
  apply Prod.ext
  · apply UInt64.toNat_inj.mp
    rw [take, toNat_and_lowMask _ (by omega), UInt64.toNat_shiftRight, UInt8.toNat_toUInt64, count_eq,
      whole_eq, Nat.mod_eq_of_lt (by omega : back.length < 64), front_eq, width_eq,
      Nat.mod_eq_of_lt front_lt]
    exact (toNat_accumulator_ofBits (by omega)).symm
  · apply eq_ofBits
    · rw [take, toNat_and_lowMask _ (by omega), count_eq, whole_eq, back_eq]
    · exact count_eq

/-- The bits of a byte that is not full are filled with zeros. -/
theorem padToByte_ofBits {bits : List Bool} (short : bits.length < 8) :
    (ofBits bits).padToByte = Bits.padToByte bits := by
  have eight_eq : (8 : UInt8).toNat = 8 := rfl
  have count_eq : (8 - (ofBits bits).count).toNat = 8 - bits.length := by
    have count_le : (ofBits bits).count ≤ 8 := by
      rw [UInt8.le_iff_toNat_le, toNat_count_ofBits (by omega)]
      exact Nat.le_of_lt short
    rw [UInt8.toNat_sub_of_le _ _ count_le, toNat_count_ofBits (by omega), eight_eq]
  have padded_eq := Bits.toNat_padToByte (Nat.le_of_lt short)
  have padded_lt : Bits.toNat bits <<< (8 - bits.length) < 256 := padded_eq ▸ UInt8.toNat_lt _
  apply UInt8.toNat_inj.mp
  rw [padToByte, UInt64.toNat_toUInt8, UInt64.toNat_shiftLeft, UInt8.toNat_toUInt64, count_eq,
    toNat_accumulator_ofBits (by omega), Nat.mod_eq_of_lt (by omega : 8 - bits.length < 64),
    padded_eq, Nat.mod_eq_of_lt (Nat.lt_trans padded_lt (by decide))]
  exact Nat.mod_eq_of_lt padded_lt

end BitBuffer

end CodedVideo
