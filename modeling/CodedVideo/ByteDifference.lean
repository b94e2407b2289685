/-!
# Differences of bytes

Scaling lists code each entry as the difference from the one in front of it, modulo 256.
-/

namespace CodedVideo.ByteDifference

/-- The entry that lies `difference` above `entry`, modulo 256. -/
def next (entry : Nat) (difference : Int) : Nat :=
  ((entry + difference) % 256).toNat

/-- The least difference that leads from one entry to another. -/
def between (entry next : Nat) : Int :=
  ((next : Int) - entry).bmod 256

/-- The differences that lead from entry to entry, starting in front of the first. -/
def along : Nat → List Nat → List Int
  | _, [] => []
  | entry, next :: entries => between entry next :: along next entries

end CodedVideo.ByteDifference
