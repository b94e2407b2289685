import CodedVideo.Proofs.NalUnit.WrittenUnit

/-!
# The stored bytes behind which a reader stands

A reader counts the stored bytes that it has loaded. They are those whose payload covers the bits
that were read, with an inserted byte that stands right behind them. This determines their number
from the unit and the position alone.

Main statement: `EscapedReader.Between.storedThrough`.
-/

namespace CodedVideo

namespace Emulation

/-- So many stored bytes of a unit belong to the first `bits` bits of its payload: their payload
has the bytes that those bits take up, and each stored byte more adds to it. -/
structure StoredThrough (unit : List UInt8) (bits count : Nat) : Prop where
  count_le : count ≤ unit.length
  payload_eq : (remove (unit.take count)).length = (bits + 7) / 8
  payload_lt : ∀ more, count < more → more ≤ unit.length →
    (bits + 7) / 8 < (remove (unit.take more)).length

/-- There is only one such number of bytes. -/
theorem StoredThrough.unique {unit : List UInt8} {bits count other : Nat}
    (stored : StoredThrough unit bits count) (otherStored : StoredThrough unit bits other) :
    count = other := by
  rcases Nat.lt_trichotomy count other with fewer | same | more
  · have longer := stored.payload_lt other fewer otherStored.count_le
    rw [otherStored.payload_eq] at longer
    exact absurd longer (Nat.lt_irrefl _)
  · exact same
  · have longer := otherStored.payload_lt count more stored.count_le
    rw [stored.payload_eq] at longer
    exact absurd longer (Nat.lt_irrefl _)

end Emulation

open Emulation (StoredThrough)

/-- The loaded bytes of a source are those that belong to the bits in front of its position. -/
theorem EscapedSource.ValidIn.storedThrough {unit : List UInt8} {source : EscapedSource}
    (valid : source.ValidIn unit) :
    StoredThrough unit (BitSource.position source) source.loaded := by
  have position_eq := valid.position_add_pending
  have short := valid.pending_short
  have unit_eq := valid.unit_eq
  subst unit_eq
  have payload_eq : (Emulation.remove source.front).length =
      (BitSource.position source + 7) / 8 := by
    omega
  refine ⟨valid.loaded_le, payload_eq, fun more isMore more_le => ?_⟩
  -- The first byte that is not loaded belongs to the payload, for the source is settled.
  obtain ⟨byte, rest, rest_eq⟩ : ∃ byte rest, source.rest = byte :: rest := by
    apply List.exists_cons_of_ne_nil
    rw [valid.rest_eq, Ne, List.drop_eq_nil_iff]
    omega
  have notInserted := valid.settled byte rest rest_eq
  have taken_eq : source.unit.take more =
      source.front ++ byte :: rest.take (more - source.loaded - 1) := by
    have parts := List.take_append_drop source.loaded source.unit
    rw [← valid.rest_eq, rest_eq] at parts
    rw [← parts, List.take_append, List.length_take_of_le valid.loaded_le,
      List.take_of_length_le (Nat.le_trans (List.length_take_le _ _) (Nat.le_of_lt isMore)),
      List.take_cons (by omega)]
    rfl
  rw [taken_eq, Emulation.remove_append, ← valid.zeros_eq, Emulation.removeAfter,
    if_neg notInserted, List.length_append, payload_eq, List.length_cons]
  omega

/-- A reader has loaded the bytes that belong to the fields that it has read. -/
theorem EscapedReader.Between.storedThrough {unit : List UInt8} {front back : List CodedField}
    {reader : EscapedReader} (between : Between unit front back reader) :
    StoredThrough unit (CodedField.codeAll front 0).length reader.bytesRead := by
  rcases between.sources with ⟨valid, payload_eq⟩
  have position_eq : BitSource.position reader.source = (CodedField.codeAll front 0).length :=
    congrArg PlainSource.position payload_eq
  rw [← position_eq]
  exact valid.storedThrough

end CodedVideo
