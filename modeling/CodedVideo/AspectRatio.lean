/-!
# Sample aspect ratios

The shape of a luma sample is coded as an index into a table, or as `AspectRatio.extended`, behind
which the ratio itself follows.
-/

namespace CodedVideo

/-- The width and the height of a luma sample, in an arbitrary unit. -/
structure AspectRatio where
  width : Nat
  height : Nat
deriving DecidableEq, Repr

namespace AspectRatio

/-- The index behind which the ratio itself follows. -/
def extended : Nat := 255

/-- The ratios that have an index, in its order; the first stands for "unspecified". -/
def table : List AspectRatio :=
  [⟨0, 0⟩, ⟨1, 1⟩, ⟨12, 11⟩, ⟨10, 11⟩, ⟨16, 11⟩, ⟨40, 33⟩, ⟨24, 11⟩, ⟨20, 11⟩, ⟨32, 11⟩, ⟨80, 33⟩,
    ⟨18, 11⟩, ⟨15, 11⟩, ⟨64, 33⟩, ⟨160, 99⟩, ⟨4, 3⟩, ⟨3, 2⟩, ⟨2, 1⟩]

/-- The ratio with a given index; none for reserved indices and for `extended`. -/
def ofIndex? (index : Nat) : Option AspectRatio :=
  table[index]?

end AspectRatio

end CodedVideo
