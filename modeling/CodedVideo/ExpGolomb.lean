/-!
# Exp-Golomb codes

The code of a number `n` is `k` zeros, a one and a suffix of `k` bits, where
`2 ^ k - 1 + suffix = n`; said otherwise, `k` zeros and then `n + 1` in `k + 1` bits. Signed values
are carried by code numbers: odd ones stand for positive values, even ones for zero and negative
values.
-/

namespace CodedVideo.ExpGolomb

/-- The number of zeros that open the code of `number`. -/
def leadingZeros (number : Nat) : Nat :=
  (number + 1).log2

/-- The number of bits in the code of `number`. -/
def codeLength (number : Nat) : Nat :=
  2 * leadingZeros number + 1

/-- The code number that carries a signed value. -/
def ofSigned (value : Int) : Nat :=
  if 0 < value then (2 * value - 1).toNat else (-2 * value).toNat

/-- The signed value that a code number carries, as a two's complement number of 64 bits. -/
def toSigned (number : Nat) : Int :=
  let magnitude : Int := (number / 2 + number % 2 : Nat)
  if number % 2 = 1 then magnitude.bmod 18446744073709551616 else -magnitude

/-- The number of code numbers that an unsigned field can hold, that is all of 32 bits. -/
def unsignedLimit : Nat := 4294967296

/-- Whether a signed field of 32 bits can hold `value`. -/
def fitsSigned (value : Int) : Bool :=
  -2147483648 ≤ value && value ≤ 2147483647

end CodedVideo.ExpGolomb

namespace CodedVideo

/-- The least `k` with `count ≤ 2 ^ k`: the width of a field that tells `count` values apart. -/
def ceilLog2 (count : Nat) : Nat :=
  if count ≤ 1 then 0 else (count - 1).log2 + 1

end CodedVideo
