import CodedVideo.NalUnit.Emulation

/-!
# Emulation prevention across a cut

Whether a byte 3 is an inserted one depends on the zeros in front of it. The number of zeros that
the rule has counted is therefore all that a part of a unit has to know of what stands in front of
it: removal and insertion of a whole are those of its front, and those of its back behind the zeros
that the front leaves.

Main statement: removal undoes insertion.
-/

namespace CodedVideo.Emulation

/-! ## Removal -/

/-- The number of zeros that removal has counted behind a unit. -/
def zerosBehind : Nat → List UInt8 → Nat
  | zeros, [] => zeros
  | zeros, byte :: bytes =>
      if zeros = zerosBefore ∧ byte = preventionByte then zerosBehind 0 bytes
      else zerosBehind (zeroRun zeros byte) bytes

/-- Removal from a whole is removal from its front and, behind the zeros that the front leaves, from
its back. -/
theorem removeAfter_append (zeros : Nat) (front back : List UInt8) :
    removeAfter zeros (front ++ back) =
      removeAfter zeros front ++ removeAfter (zerosBehind zeros front) back := by
  induction front generalizing zeros with
  | nil => rfl
  | cons byte front inductionHypothesis =>
      simp only [List.cons_append, removeAfter, zerosBehind]
      split
      · exact inductionHypothesis 0
      · rw [inductionHypothesis, List.cons_append]

theorem zerosBehind_append (zeros : Nat) (front back : List UInt8) :
    zerosBehind zeros (front ++ back) = zerosBehind (zerosBehind zeros front) back := by
  induction front generalizing zeros with
  | nil => rfl
  | cons byte front inductionHypothesis =>
      simp only [List.cons_append, zerosBehind]
      split
      · exact inductionHypothesis 0
      · exact inductionHypothesis (zeroRun zeros byte)

/-- The payload of a unit that is cut in two starts with that of the front. -/
theorem remove_append (front back : List UInt8) :
    remove (front ++ back) = remove front ++ removeAfter (zerosBehind 0 front) back :=
  removeAfter_append 0 front back

/-- Only inserted bytes are removed. -/
theorem length_removeAfter_le (zeros : Nat) (unit : List UInt8) :
    (removeAfter zeros unit).length ≤ unit.length := by
  induction unit generalizing zeros with
  | nil => exact Nat.le_refl 0
  | cons byte unit inductionHypothesis =>
      simp only [removeAfter]
      split
      · exact Nat.le_succ_of_le (inductionHypothesis 0)
      · exact Nat.succ_le_succ (inductionHypothesis (zeroRun zeros byte))

/-- Without a byte 3 nothing is removed. -/
theorem removeAfter_eq_self (zeros : Nat) {unit : List UInt8} (noThree : preventionByte ∉ unit) :
    removeAfter zeros unit = unit := by
  induction unit generalizing zeros with
  | nil => rfl
  | cons byte unit inductionHypothesis =>
      rw [List.mem_cons, not_or] at noThree
      have notDropped : ¬ (zeros = zerosBefore ∧ byte = preventionByte) :=
        fun dropped => noThree.1 dropped.2.symm
      rw [removeAfter, if_neg notDropped, inductionHypothesis _ noThree.2]

theorem remove_eq_self {unit : List UInt8} (noThree : preventionByte ∉ unit) :
    remove unit = unit :=
  removeAfter_eq_self 0 noThree

/-- A unit consists of its payload and the inserted bytes. -/
theorem length_remove_add_count (unit : List UInt8) :
    (remove unit).length + count unit = unit.length := by
  have shorter := length_removeAfter_le 0 unit
  simp only [remove, count]
  omega

/-! ## Insertion -/

/-- The number of zeros that insertion has counted behind a payload. -/
def zerosWritten : Nat → List UInt8 → Nat
  | zeros, [] => zeros
  | zeros, byte :: bytes =>
      if zeros = zerosBefore ∧ byte ≤ preventionByte then zerosWritten (zeroRun 0 byte) bytes
      else zerosWritten (zeroRun zeros byte) bytes

/-- Insertion into a whole is insertion into its front and, behind the zeros that the front leaves,
into its back. -/
theorem insertAfter_append (zeros : Nat) (front back : List UInt8) :
    insertAfter zeros (front ++ back) =
      insertAfter zeros front ++ insertAfter (zerosWritten zeros front) back := by
  induction front generalizing zeros with
  | nil => rfl
  | cons byte front inductionHypothesis =>
      simp only [List.cons_append, insertAfter, zerosWritten]
      split
      · rw [inductionHypothesis, List.cons_append, List.cons_append]
      · rw [inductionHypothesis, List.cons_append]

theorem zerosWritten_append (zeros : Nat) (front back : List UInt8) :
    zerosWritten zeros (front ++ back) = zerosWritten (zerosWritten zeros front) back := by
  induction front generalizing zeros with
  | nil => rfl
  | cons byte front inductionHypothesis =>
      simp only [List.cons_append, zerosWritten]
      split
      · exact inductionHypothesis (zeroRun 0 byte)
      · exact inductionHypothesis (zeroRun zeros byte)

/-- Removal undoes insertion behind any number of zeros. -/
theorem removeAfter_insertAfter (zeros : Nat) (payload : List UInt8) :
    removeAfter zeros (insertAfter zeros payload) = payload := by
  induction payload generalizing zeros with
  | nil => rfl
  | cons byte payload inductionHypothesis =>
      simp only [insertAfter]
      by_cases escaped : zeros = zerosBefore ∧ byte ≤ preventionByte
      · -- The inserted byte is dropped and starts a new run, behind which nothing is dropped.
        have notArmed : ¬ (0 = zerosBefore ∧ byte = preventionByte) := fun armed =>
          Nat.noConfusion armed.1
        rw [if_pos escaped, removeAfter, if_pos ⟨escaped.1, rfl⟩, removeAfter, if_neg notArmed,
          inductionHypothesis]
      · have notDropped : ¬ (zeros = zerosBefore ∧ byte = preventionByte) := by
          rintro ⟨armed, rfl⟩
          exact escaped ⟨armed, Nat.le_refl _⟩
        rw [if_neg escaped, removeAfter, if_neg notDropped, inductionHypothesis]

/-- The payload of an escaped payload is that payload. -/
theorem remove_insert (payload : List UInt8) : remove (insert payload) = payload :=
  removeAfter_insertAfter 0 payload

/-! ## Cutting -/

/-- Where zeros are counted behind a unit, its payload ends in a zero. -/
theorem getLast?_remove_of_zerosBehind_ne_zero {unit : List UInt8}
    (counted : zerosBehind 0 unit ≠ 0) : (remove unit).getLast? = some 0 := by
  rcases List.eq_nil_or_concat unit with rfl | ⟨front, byte, rfl⟩
  · contradiction
  · rw [List.concat_eq_append, zerosBehind_append, zerosBehind] at counted
    rw [List.concat_eq_append, remove_append, removeAfter]
    split at counted
    · contradiction
    · next notInserted =>
      have isZero : byte = 0 :=
        Decidable.byContradiction fun notZero => counted (if_neg notZero)
      rw [if_neg notInserted, isZero, List.getLast?_append]
      rfl

/-- Behind a payload byte other than zero no zeros are counted. -/
theorem zerosBehind_eq_zero {unit : List UInt8} {last : UInt8}
    (ends : (remove unit).getLast? = some last) (notZero : last ≠ 0) : zerosBehind 0 unit = 0 := by
  apply Decidable.byContradiction
  intro counted
  rw [getLast?_remove_of_zerosBehind_ne_zero counted] at ends
  exact notZero (Option.some.inj ends).symm

/-- A byte behind no zeros is payload. -/
theorem removeAfter_zero_cons (byte : UInt8) (bytes : List UInt8) :
    removeAfter 0 (byte :: bytes) = byte :: removeAfter (zeroRun 0 byte) bytes := by
  have notInserted : ¬ (0 = zerosBefore ∧ byte = preventionByte) := fun inserted =>
    Nat.noConfusion inserted.1
  rw [removeAfter, if_neg notInserted]

/-- The first byte of a unit is payload. -/
theorem remove_ne_nil {unit : List UInt8} (isThere : unit ≠ []) : remove unit ≠ [] := by
  obtain ⟨byte, bytes, rfl⟩ := List.exists_cons_of_ne_nil isThere
  rw [remove, removeAfter_zero_cons]
  exact List.cons_ne_nil _ _

/-- Where the payload of a unit ends in a byte other than zero, what is cut off the unit holds that
byte. -/
theorem exists_remove_append_eq {front back : List UInt8} {last : UInt8} (isCut : back ≠ [])
    (ends : (remove (front ++ back)).getLast? = some last) (notZero : last ≠ 0) :
    ∃ bytes, remove (front ++ back) = remove front ++ bytes ∧ bytes.getLast? = some last := by
  refine ⟨_, remove_append front back, ?_⟩
  rw [remove_append, List.getLast?_append] at ends
  cases backEnds : (removeAfter (zerosBehind 0 front) back).getLast? with
  | some other =>
      rw [backEnds] at ends
      exact ends
  | none =>
      -- No zeros are counted behind the front, so the first byte behind it is payload.
      rw [backEnds, Option.none_or] at ends
      rw [zerosBehind_eq_zero ends notZero] at backEnds
      exact absurd (List.getLast?_eq_none_iff.mp backEnds) (remove_ne_nil isCut)

/-- Behind a byte other than zero no zeros are written. -/
theorem zerosWritten_eq_zero {payload : List UInt8} {last : UInt8}
    (ends : payload.getLast? = some last) (notZero : last ≠ 0) : zerosWritten 0 payload = 0 := by
  obtain ⟨others, rfl⟩ := List.getLast?_eq_some_iff.mp ends
  rw [zerosWritten_append]
  simp only [zerosWritten, zeroRun, if_neg notZero, ite_self]

/-- Behind a byte other than zero a payload is escaped on its own. -/
theorem insert_append {front : List UInt8} {last : UInt8} (ends : front.getLast? = some last)
    (notZero : last ≠ 0) (back : List UInt8) :
    insert (front ++ back) = insert front ++ insert back := by
  rw [insert, insertAfter_append, zerosWritten_eq_zero ends notZero]
  rfl

/-- Where no zeros are counted, what follows adds to the payload. -/
theorem length_remove_lt {front back : List UInt8} (noZeros : zerosBehind 0 front = 0)
    (isThere : back ≠ []) : (remove front).length < (remove (front ++ back)).length := by
  have added := List.length_pos_iff.mpr (remove_ne_nil isThere)
  rw [remove_append, noZeros, List.length_append]
  exact Nat.lt_add_of_pos_right added

/-- A unit is cut in one place only so that no zeros are counted in front of the cut and the payload
in front of it has a given length. -/
theorem cut_unique {front back other rest : List UInt8} (same : front ++ back = other ++ rest)
    (noZeros : zerosBehind 0 front = 0) (noOtherZeros : zerosBehind 0 other = 0)
    (length_eq : (remove front).length = (remove other).length) : front = other := by
  rcases List.append_eq_append_iff.mp same with ⟨middle, rfl, _⟩ | ⟨middle, rfl, _⟩
  · by_cases isNil : middle = []
    · rw [isNil, List.append_nil]
    · exact absurd length_eq (Nat.ne_of_lt (length_remove_lt noZeros isNil))
  · by_cases isNil : middle = []
    · rw [isNil, List.append_nil]
    · exact absurd length_eq.symm (Nat.ne_of_lt (length_remove_lt noOtherZeros isNil))

end CodedVideo.Emulation
