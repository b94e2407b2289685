import CodedVideo.Proofs.Bits.Reads

/-!
# Refused widths

A reader refuses a read of more bits than one read can move, and latches that as a fault. No read
within the widths is refused, and neither is one that is composed of such reads: codes, skips and
the trailing bits ask for no more than 32 bits at a time, whatever the data.
-/

namespace CodedVideo

variable {σ : Type}

/-- No width was refused: the fault, if there is one, is another. -/
def Reader.Unrefused (reader : Reader σ) : Prop :=
  ∀ count, reader.fault ≠ some (.invalidBitCount count)

namespace Reader

/-- A read that refuses no width of its own accord. -/
def NeverRefuses {α : Type} (read : ReadM σ α) : Prop :=
  ∀ reader : Reader σ, reader.Unrefused → (read reader).2.Unrefused

namespace NeverRefuses

variable {α β : Type}

/-! ## Sequences -/

theorem pure (value : α) : NeverRefuses (Pure.pure value : ReadM σ α) :=
  fun _ unrefused => unrefused

theorem bind {part : ReadM σ α} {next : α → ReadM σ β} (partNever : NeverRefuses part)
    (nextNever : ∀ value, NeverRefuses (next value)) : NeverRefuses (part >>= next) := by
  intro reader unrefused
  have behind := partNever reader unrefused
  rw [bind_apply]
  rcases part_eq : part reader with ⟨fault | value, rest⟩
  · rw [part_eq] at behind
    exact behind
  · rw [part_eq] at behind
    exact nextNever value rest behind

theorem ite {condition : Prop} [Decidable condition] {first second : ReadM σ α}
    (firstNever : NeverRefuses first) (secondNever : NeverRefuses second) :
    NeverRefuses (if condition then first else second) := by
  split
  · exact firstNever
  · exact secondNever

/-- A fault of another kind hides no refusal: one that is latched already stays. -/
theorem fail {fault : BitFault} (isOther : ∀ count, fault ≠ .invalidBitCount count) :
    NeverRefuses (Reader.fail fault : ReadM σ α) := by
  intro reader unrefused count
  cases latched : reader.fault with
  | none => simpa [Reader.fail, latched] using isOther count
  | some earlier => simpa [Reader.fail, latched] using unrefused count

/-! ## Single reads -/

variable [BitSource σ]

theorem readBits {count : Nat} (fits : count ≤ 32) :
    NeverRefuses (Reader.readBits count : ReadM σ Nat) := by
  intro reader unrefused
  simp only [Reader.readBits]
  cases latched : reader.fault with
  | some fault => exact unrefused
  | none =>
      simp only [if_neg (Nat.not_lt.mpr fits)]
      cases BitSource.take count reader.source with
      | none => exact fail (by simp) reader unrefused
      | some taken => exact fun count => by simp

theorem readWideBits {count : Nat} (fits : count ≤ 64) :
    NeverRefuses (Reader.readWideBits count : ReadM σ Nat) := by
  rw [Reader.readWideBits, if_neg (Nat.not_lt.mpr fits)]
  split
  · next isNarrow => exact readBits isNarrow
  · refine bind (readBits (by omega)) fun high => ?_
    exact bind (readBits (Nat.le_refl 32)) fun low => pure _

theorem readFlag : NeverRefuses (Reader.readFlag : ReadM σ Bool) :=
  bind (readBits (by decide)) fun _ => pure _

/-! ## Skips -/

theorem skipWords (steps : Nat) : NeverRefuses (Reader.skipWords steps : ReadM σ Unit) := by
  induction steps with
  | zero => exact pure ()
  | succ steps inductionHypothesis =>
      exact bind (readBits (Nat.le_refl 32)) fun _ => inductionHypothesis

/-- A skip of any length goes in groups of at most 32 bits. -/
theorem skip (count : Nat) : NeverRefuses (Reader.skip count : ReadM σ Unit) := by
  refine bind (skipWords _) fun _ => ?_
  split
  · exact bind (readBits (by omega)) fun _ => pure _
  · exact pure _

theorem align : NeverRefuses (Reader.align : ReadM σ Unit) :=
  fun reader => skip _ reader

/-! ## Exp-Golomb codes -/

theorem readZeroRun (bound : Nat) (zeros : UInt32) :
    NeverRefuses (Reader.readZeroRun bound zeros : ReadM σ UInt32) := by
  induction bound generalizing zeros with
  | zero => exact fail (by simp)
  | succ bound inductionHypothesis =>
      refine bind (readBits (by decide)) fun bit => ?_
      exact ite (inductionHypothesis _) (pure _)

/-- The suffix of a code is as long as the zeros in front of it, of which more than 32 end the read.
-/
theorem readCodeNumber : NeverRefuses (Reader.readCodeNumber : ReadM σ Nat) := by
  intro reader
  rw [readCodeNumber_apply]
  refine bind (readZeroRun _ _) (fun zeros => ?_) reader
  split
  · exact fail (by simp)
  · next fits =>
      exact bind (readBits (UInt32.le_iff_toNat_le.mp (UInt32.not_lt.mp fits))) fun suffix => pure _

theorem readUnsigned : NeverRefuses (Reader.readUnsigned : ReadM σ Nat) :=
  bind readCodeNumber fun _ => ite (pure _) (fail (by simp))

theorem readSigned : NeverRefuses (Reader.readSigned : ReadM σ Int) :=
  bind readCodeNumber fun _ => ite (pure _) (fail (by simp))

/-! ## The end of the payload -/

theorem readZerosToEnd (bound : Nat) :
    NeverRefuses (Reader.readZerosToEnd bound : ReadM σ Unit) := by
  induction bound with
  | zero => exact pure ()
  | succ bound inductionHypothesis =>
      intro reader
      by_cases atEnd : reader.atEnd = true
      · rw [readZerosToEnd_of_atEnd atEnd]
        exact id
      · rw [readZerosToEnd_succ atEnd]
        exact bind (readBits (by decide)) (fun _ => ite inductionHypothesis (fail (by simp))) reader

theorem readTrailingBits : NeverRefuses (Reader.readTrailingBits : ReadM σ Unit) := by
  intro reader
  rw [readTrailingBits_apply]
  refine bind (readBits (by decide)) (fun _ => ite (fun rest => ?_) (fail (by simp))) reader
  exact readZerosToEnd _ rest

end NeverRefuses

end Reader

end CodedVideo
