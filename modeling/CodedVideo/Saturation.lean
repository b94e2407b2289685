/-!
# Saturating arithmetic

Derived sizes are computed from coded numbers of up to 32 bits. A size that leaves that range is
capped at its end.
-/

namespace CodedVideo

/-- The greatest size, all ones in 32 bits. -/
def sizeLimit : Nat := 4294967295

/-- A size, capped at the greatest one. -/
def saturate (size : Nat) : Nat :=
  min size sizeLimit

/-- A signed value, capped to the range of 32 bits. -/
def saturateSigned (value : Int) : Int :=
  max (-2147483648) (min value 2147483647)

/-- What is left of `size` when two margins, each counted in `unit`s, are cut off. -/
def crop (size unit first second : Nat) : Nat :=
  size - saturate (unit * saturate (first + second))

end CodedVideo
