import CodedVideo.ExpGolomb
import CodedVideo.Proofs.Bits.Strings

/-!
# The bits of an Exp-Golomb code

A code opens with a run of zeros whose length, behind the one that ends it, is that of the suffix.
The code number is recovered from the two, and a signed value from its code number.
-/

namespace CodedVideo.ExpGolomb

/-- The bits of the code of a number. -/
def code (number : Nat) : List Bool :=
  List.replicate (leadingZeros number) false ++
    true :: Bits.ofNat (leadingZeros number) (number + 1)

theorem length_code (number : Nat) : (code number).length = codeLength number := by
  simp only [code, codeLength, List.length_append, List.length_replicate, List.length_cons,
    Bits.length_ofNat]
  omega

/-- The number behind a code number has one bit more than the code has zeros. -/
theorem succ_bounds (number : Nat) :
    1 <<< leadingZeros number ≤ number + 1 ∧ number + 1 < 1 <<< (leadingZeros number + 1) := by
  have notZero : number + 1 ≠ 0 := Nat.succ_ne_zero number
  simp only [Nat.shiftLeft_eq, Nat.one_mul, leadingZeros]
  exact ⟨Nat.log2_self_le notZero, Nat.lt_log2_self⟩

/-- Behind the zeros a code writes the number behind its code number. -/
theorem ofNat_succ (number : Nat) :
    Bits.ofNat (leadingZeros number + 1) (number + 1) =
      true :: Bits.ofNat (leadingZeros number) (number + 1) := by
  rw [Bits.ofNat]
  congr 1
  rcases succ_bounds number with ⟨atLeast, below⟩
  rw [Nat.shiftLeft_eq, Nat.one_mul] at atLeast below
  exact Nat.testBit_of_two_pow_le_and_two_pow_add_one_gt atLeast below

/-- The zeros and the suffix determine the code number. -/
theorem number_eq (number : Nat) :
    1 <<< leadingZeros number - 1 + (number + 1) % 1 <<< leadingZeros number = number := by
  rcases succ_bounds number with ⟨atLeast, below⟩
  rw [Nat.shiftLeft_eq, Nat.one_mul] at *
  rw [Nat.pow_succ] at below
  rw [Nat.mod_eq_sub_mod atLeast, Nat.mod_eq_of_lt (by omega)]
  omega

/-- The codes of 32-bit values open with at most 32 zeros. -/
theorem leadingZeros_le {number : Nat} (inRange : number ≤ unsignedLimit) :
    leadingZeros number ≤ 32 := by
  apply Nat.le_of_lt_succ
  apply (Nat.log2_lt (Nat.succ_ne_zero number)).mpr
  exact Nat.lt_of_le_of_lt (Nat.succ_le_succ inRange) (by decide)

/-! ## Counters of 32 bits -/

/-- What a counter of 32 bits shows behind a number of zeros. -/
def wrappedCount (zeros : Nat) : Nat :=
  zeros % 4294967296

/-- As long as the counter has not started again, it shows all zeros. -/
theorem wrappedCount_eq {zeros : Nat} (few : zeros < 4294967296) : wrappedCount zeros = zeros :=
  Nat.mod_eq_of_lt few

/-! ## Signed values -/

/-- The code number of a value of 32 bits. -/
theorem ofSigned_le {value : Int} (fits : fitsSigned value = true) :
    ofSigned value ≤ unsignedLimit := by
  simp only [fitsSigned, Bool.and_eq_true, decide_eq_true_eq] at fits
  simp only [ofSigned, unsignedLimit]
  split <;> omega

/-- A value is the one that its code number carries. -/
theorem toSigned_ofSigned {value : Int} (fits : fitsSigned value = true) :
    toSigned (ofSigned value) = value := by
  simp only [fitsSigned, Bool.and_eq_true, decide_eq_true_eq] at fits
  by_cases positive : 0 < value
  · have number_eq : ofSigned value = 2 * value.toNat - 1 := by
      simp only [ofSigned, if_pos positive]
      omega
    have isOdd : (2 * value.toNat - 1) % 2 = 1 := by omega
    have magnitude_eq : ((2 * value.toNat - 1) / 2 + (2 * value.toNat - 1) % 2 : Nat) =
        value.toNat := by omega
    rw [number_eq, toSigned, if_pos isOdd, magnitude_eq, Int.toNat_of_nonneg (by omega)]
    apply Int.bmod_eq_of_le <;> omega
  · have number_eq : ofSigned value = 2 * (-value).toNat := by
      simp only [ofSigned, if_neg positive]
      omega
    have isEven : ¬ 2 * (-value).toNat % 2 = 1 := by omega
    have magnitude_eq : (2 * (-value).toNat / 2 + 2 * (-value).toNat % 2 : Nat) =
        (-value).toNat := by omega
    rw [number_eq, toSigned, if_neg isEven, magnitude_eq]
    omega

end CodedVideo.ExpGolomb
