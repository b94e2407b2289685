import CodedVideo.Proofs.Decoder.Ensures
import CodedVideo.Proofs.NalUnit.EscapedSource

/-!
# Cutting a unit at a byte boundary

Behind a one no zeros are counted, so no inserted byte can stand behind the byte that holds it. A
unit can be cut there: each part is unescaped on its own. The bits of that byte that still wait
lead to the cut.
-/

namespace CodedVideo

namespace EscapedSource

variable {unit : List UInt8} {source after : EscapedSource} {bit : Bool} {count : Nat}

/-- No zeros are counted, and `count` bits of the last byte wait. -/
structure Waiting (unit : List UInt8) (count : Nat) (source : EscapedSource) : Prop
    extends ValidIn unit source where
  no_zeros : source.zeros = 0
  pending_length : source.pending.length = count

/-- Behind a one the other bits of its byte wait. -/
theorem ValidIn.waiting (valid : source.ValidIn unit)
    (next_eq : BitSource.next source = some (true, after)) :
    after.Waiting unit after.pending.length where
  toValidIn := valid.next next_eq
  no_zeros := valid.zeros_of_next_true next_eq
  pending_length := rfl

/-- A bit that waits is handed out. -/
theorem Waiting.next (waiting : source.Waiting unit (count + 1))
    (next_eq : BitSource.next source = some (bit, after)) : after.Waiting unit count where
  toValidIn := waiting.toValidIn.next next_eq
  no_zeros := by
    rcases next_cases next_eq with ⟨pending, pending_eq, rfl⟩ | ⟨pending_eq, _⟩
    · exact waiting.no_zeros
    · have some_wait := waiting.pending_length
      rw [pending_eq] at some_wait
      contradiction
  pending_length := by
    have some_wait := waiting.pending_length
    rcases next_cases next_eq with ⟨pending, pending_eq, rfl⟩ | ⟨pending_eq, _⟩
    · rw [pending_eq, List.length_cons] at some_wait
      exact Nat.succ.inj some_wait
    · rw [pending_eq] at some_wait
      contradiction

/-- The bits that wait are those up to the next byte boundary. -/
theorem Waiting.toBoundary_position (waiting : source.Waiting unit count) :
    Bits.toBoundary (BitSource.position source) = count := by
  have loadedBits := waiting.position_add_pending
  have short := waiting.pending_short
  rw [waiting.pending_length] at loadedBits short
  simp only [Bits.toBoundary]
  omega

/-! ## Cuts -/

/-- Where no bit waits, the position is the number of bits of the loaded part that are not
inserted. -/
theorem Waiting.position_eq (cut : source.Waiting unit 0) :
    BitSource.position source =
      8 * (source.loaded - Emulation.count (unit.take source.loaded)) := by
  have loadedBits := cut.position_add_pending
  rw [cut.pending_length, ← cut.loaded_sub_escapes, cut.escapes_eq, front,
    cut.unit_eq] at loadedBits
  exact loadedBits

/-- Where no zeros are counted, the payload is that of the loaded part and that of the rest. -/
theorem Waiting.remove_eq (waiting : source.Waiting unit count) :
    Emulation.remove unit =
      Emulation.remove (unit.take source.loaded) ++
        Emulation.remove (unit.drop source.loaded) := by
  have counted := waiting.zeros_eq
  rw [waiting.no_zeros, front, waiting.unit_eq] at counted
  have parts := Emulation.remove_append (unit.take source.loaded) (unit.drop source.loaded)
  rw [List.take_append_drop, ← counted] at parts
  exact parts

/-- Where no bit waits behind the payload of a front that leaves no zeros, that front is loaded. -/
theorem Waiting.loaded_eq {front back : List UInt8} (cut : source.Waiting (front ++ back) 0)
    (noZeros : Emulation.zerosBehind 0 front = 0)
    (position_eq : BitSource.position source = 8 * (Emulation.remove front).length) :
    source.loaded = front.length := by
  have loadedBits := cut.position_add_pending
  have counted := cut.zeros_eq
  have same : source.front ++ source.unit.drop source.loaded = front ++ back := by
    rw [EscapedSource.front, List.take_append_drop, cut.unit_eq]
  rw [cut.pending_length, position_eq] at loadedBits
  rw [cut.no_zeros] at counted
  rw [← Emulation.cut_unique same counted.symm noZeros (by omega), cut.length_front]

/-- A number of bits that are handed out move a source on by as many. -/
theorem ValidIn.take {bits : List Bool} (valid : source.ValidIn unit)
    (take_eq : BitSource.take count source = some (bits, after)) :
    after.ValidIn unit ∧ BitSource.position after = BitSource.position source + count := by
  induction count generalizing source bits with
  | zero =>
      cases take_eq
      exact ⟨valid, rfl⟩
  | succ count inductionHypothesis =>
      obtain ⟨bit, rest, others, next_eq, rest_eq, _⟩ := BitSource.take_succ_eq_some take_eq
      rcases inductionHypothesis (valid.next next_eq) rest_eq with ⟨afterValid, moved⟩
      constructor
      · exact afterValid
      · rw [moved, valid.position_next next_eq]
        omega

end EscapedSource

namespace Decoder.Ensures

open EscapedSource (ValidIn Waiting)

variable {unit : List UInt8} {offset : Nat}

/-- Reading a number moves on by its width. -/
theorem bits (count : Nat) :
    Ensures (fun reader : EscapedReader => reader.source.ValidIn unit ∧ reader.position = offset)
      (Decoder.bits count)
      fun _ reader => reader.source.ValidIn unit ∧ reader.position = offset + count := by
  apply ask
  intro reader last value starts read
  obtain ⟨taken, take_eq, _⟩ := Reader.take_of_readBits read
  rcases starts.1.take take_eq with ⟨valid, moved⟩
  exact ⟨valid, moved.trans (congrArg (· + count) starts.2)⟩

/-- A flag is the next bit. -/
theorem flag {before : EscapedReader → Prop} {after : Bool → EscapedReader → Prop}
    (holds : ∀ (reader last : EscapedReader) (value : Bool), before reader →
      BitSource.next reader.source = some (value, last.source) → after value last) :
    Ensures before Decoder.flag after := by
  apply ask
  intro reader last value starts read
  exact holds reader last value starts (Reader.next_of_readFlag read)

end Decoder.Ensures

end CodedVideo
