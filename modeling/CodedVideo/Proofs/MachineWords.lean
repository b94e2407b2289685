import CodedVideo.Saturation

/-!
# Arithmetic of machine words

A program computes in words of a fixed width. A sum that does not fit its width, a shift by the whole
width or more and a division by zero have no word as their result; the bits that a shift moves out of
a word are lost without notice. Here these operations give nothing where there is no word, and where
their operands are small enough they are the operations of numbers.

Sums, products and differences that are capped always give a word. A cap in the middle of a
computation does not show at its end: a product whose factor was capped is capped itself, and a
difference that takes away too much is zero with and without a cap.

Main statements: `Word.add?_eq_some`, `Word.shiftLeft?_eq_some`, `Word.divideUp?_eq_some` and
`crop_eq_cropExactly`.
-/

namespace CodedVideo

/-! ## Quotients that are rounded up -/

/-- A quotient that is rounded up is the least number of groups that hold everything. -/
theorem div_roundedUp_le_iff {size unit count : Nat} (isPositive : 0 < unit) :
    (size + (unit - 1)) / unit ≤ count ↔ size ≤ count * unit := by
  rw [Nat.div_le_iff_le_mul isPositive]
  generalize count * unit = whole
  omega

namespace Word

variable {width : Nat}

/-- A number as a word, if it is one. -/
def ofNat? (width number : Nat) : Option Nat :=
  if number < 1 <<< width then some number else none

/-- The sum of two words, if it is a word. -/
def add? (width first second : Nat) : Option Nat :=
  ofNat? width (first + second)

/-- A word that is shifted to the left by less than its width. The bits that leave it are lost. -/
def shiftLeft? (width word distance : Nat) : Option Nat :=
  if distance < width then some (word <<< distance % 1 <<< width) else none

/-- The quotient of two words, rounded up if something remains. -/
def divideUp? (width word divisor : Nat) : Option Nat :=
  if divisor = 0 then none
  else if word % divisor = 0 then some (word / divisor)
  else add? width (word / divisor) 1

@[simp]
theorem ofNat?_eq_some_iff {number word : Nat} :
    ofNat? width number = some word ↔ number < 1 <<< width ∧ number = word := by
  by_cases fits : number < 1 <<< width
  · simp [ofNat?, fits]
  · simp [ofNat?, fits]

/-- A sum that fits its width is the sum of the numbers. -/
theorem add?_eq_some {first second sum : Nat} (sum_eq : first + second = sum)
    (fits : sum < 1 <<< width) : add? width first second = some sum := by
  rw [add?, ofNat?_eq_some_iff]
  exact ⟨sum_eq ▸ fits, sum_eq⟩

/-- A shift that loses no bits is the shift of the number. -/
theorem shiftLeft?_eq_some {word distance : Nat} (inRange : distance < width)
    (fits : word <<< distance < 1 <<< width) :
    shiftLeft? width word distance = some (word <<< distance) := by
  rw [shiftLeft?, if_pos inRange, Nat.mod_eq_of_lt fits]

/-- No word is too great to be divided: where something remains the quotient is less than the word,
so that there is room for one more. -/
theorem divideUp?_eq_some {word divisor : Nat} (isPositive : 0 < divisor)
    (fits : word < 1 <<< width) :
    divideUp? width word divisor = some ((word + (divisor - 1)) / divisor) := by
  rw [divideUp?, if_neg (Nat.ne_of_gt isPositive)]
  have parts := Nat.div_add_mod word divisor
  have below := Nat.mod_lt word isPositive
  by_cases isWhole : word % divisor = 0
  · rw [if_pos isWhole]
    congr 1
    apply Nat.le_antisymm
    · exact Nat.div_le_div_right (Nat.le_add_right word _)
    · rw [div_roundedUp_le_iff isPositive, Nat.mul_comm]
      omega
  · have quotient_lt : word / divisor < word := by
      apply Nat.div_lt_self
      · exact Nat.pos_of_ne_zero fun isZero => isWhole (by rw [isZero, Nat.zero_mod])
      · exact Nat.lt_of_not_le fun isSmall => isWhole (by
          rw [Nat.le_antisymm isSmall isPositive, Nat.mod_one])
    have sum_eq : word / divisor + 1 = (word + (divisor - 1)) / divisor := by
      apply Nat.le_antisymm
      · rw [Nat.le_div_iff_mul_le isPositive, Nat.succ_mul, Nat.mul_comm]
        omega
      · rw [div_roundedUp_le_iff isPositive, Nat.succ_mul, Nat.mul_comm]
        omega
    rw [if_neg isWhole]
    exact add?_eq_some sum_eq (by omega)

end Word

/-! ## Caps -/

theorem saturate_of_le {size : Nat} (size_le : size ≤ sizeLimit) : saturate size = size :=
  Nat.min_eq_left size_le

theorem saturate_of_ge {size : Nat} (le_size : sizeLimit ≤ size) : saturate size = sizeLimit :=
  Nat.min_eq_right le_size

/-- What is capped within a product is capped again outside of it. -/
theorem saturate_mul_saturate (unit size : Nat) :
    saturate (unit * saturate size) = saturate (unit * size) := by
  by_cases isSmall : size ≤ sizeLimit
  · rw [saturate_of_le isSmall]
  · have le_size : sizeLimit ≤ size := Nat.le_of_not_le isSmall
    rw [saturate_of_ge le_size]
    cases unit with
    | zero => rw [Nat.zero_mul, Nat.zero_mul]
    | succ unit =>
        have le_product (factor : Nat) : factor ≤ (unit + 1) * factor :=
          Nat.le_mul_of_pos_left factor (Nat.succ_pos unit)
        rw [saturate_of_ge (le_product sizeLimit),
          saturate_of_ge (Nat.le_trans le_size (le_product size))]

theorem saturate_saturate_mul (size unit : Nat) :
    saturate (saturate size * unit) = saturate (size * unit) := by
  rw [Nat.mul_comm, saturate_mul_saturate, Nat.mul_comm]

/-- A cap at the greatest size takes nothing away from what is left of a size. -/
theorem sub_saturate {size : Nat} (size_le : size ≤ sizeLimit) (margin : Nat) :
    size - saturate margin = size - margin := by
  unfold saturate
  omega

theorem crop_le (size unit first second : Nat) : crop size unit first second ≤ size :=
  Nat.sub_le size _

/-- What the integers leave of a size when margins of so many units are cut off: not less than
nothing. -/
def cropExactly (size unit margins : Nat) : Int :=
  max 0 ((size : Int) - (unit : Int) * (margins : Int))

theorem cropExactly_eq_sub (size unit margins : Nat) :
    cropExactly size unit margins = (size - unit * margins : Nat) := by
  rw [cropExactly, ← Int.natCast_mul]
  omega

theorem crop_eq_cropExactly {size : Nat} (size_le : size ≤ sizeLimit) (unit first second : Nat) :
    (crop size unit first second : Int) = cropExactly size unit (first + second) := by
  rw [cropExactly_eq_sub, crop, saturate_mul_saturate, sub_saturate size_le]

end CodedVideo
