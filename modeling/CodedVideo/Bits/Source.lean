import CodedVideo.Bits.Basic

/-!
# Sources of bits

A source hands out one bit after another. Everything a reader does rests on that single step, so
two sources that hand out the same bits are read alike.
-/

namespace CodedVideo

/-- A finite supply of bits. -/
class BitSource (σ : Type) where
  /-- The next bit and the source behind it, or nothing at the end. -/
  next : σ → Option (Bool × σ)
  /-- The number of bits handed out so far. -/
  position : σ → Nat
  /-- A bound on the number of bits that can still be handed out. -/
  bitsLeft : σ → Nat

namespace BitSource

variable {σ : Type} [BitSource σ]

/-- The next `count` bits and the source behind them, or nothing if there are fewer. -/
def take : Nat → σ → Option (List Bool × σ)
  | 0, source => some ([], source)
  | count + 1, source =>
      match next source with
      | none => none
      | some (bit, rest) =>
          match take count rest with
          | none => none
          | some (bits, last) => some (bit :: bits, last)

/-- No bit is left. -/
def atEnd (source : σ) : Bool :=
  (next source).isNone

/-- Whether one of the next `count` bits is a one. -/
def hasOneWithin : Nat → σ → Bool
  | 0, _ => false
  | count + 1, source =>
      match next source with
      | none => false
      | some (true, _) => true
      | some (false, rest) => hasOneWithin count rest

/-- Whether the remaining bits hold more than a single one followed by zeros. -/
def hasMoreData (source : σ) : Bool :=
  match next source with
  | none => false
  | some (false, _) => true
  | some (true, rest) => hasOneWithin (bitsLeft rest) rest

end BitSource

end CodedVideo
