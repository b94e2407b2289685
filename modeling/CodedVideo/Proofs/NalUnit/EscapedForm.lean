import CodedVideo.Proofs.NalUnit.Emulation

/-!
# The form of escaped units

Two conditions on windows of a few bytes say which units insertion gives. No two zeros are followed by
a byte below three, so nothing in the unit can be taken for a start code. And a byte 3 behind two
zeros is followed by a byte of at most 3, so each inserted byte is needed.

Insertion and removal count zeros instead of looking at windows. Between the two stands a scan that
counts zeros as they do and asks of each byte behind two zeros what the windows ask of it.

Main statement: `insert_image`.
-/

namespace CodedVideo.Emulation

/-! ## Windows -/

/-- No two zero bytes are followed by a byte below three. -/
def FreeOfStartCodes (unit : List UInt8) : Prop :=
  ∀ byte ≤ 2, ¬ [0, 0, byte] <:+: unit

/-- Each byte 3 behind two zero bytes is followed by a byte of at most 3. -/
def EscapesNeeded (unit : List UInt8) : Prop :=
  ∀ front back, unit = front ++ [0, 0, 3] ++ back → ∃ byte ∈ back.head?, byte ≤ 3

/-- The rule admits a byte behind two zeros: it is not below three, and if it is three, it is needed
for the byte behind it. -/
def Admits (byte : UInt8) (rest : List UInt8) : Prop :=
  ¬ byte ≤ 2 ∧ (byte = preventionByte → ∃ next ∈ rest.head?, next ≤ preventionByte)

/-- A byte that is admitted behind two zeros is no zero. -/
theorem Admits.ne_zero {byte : UInt8} {rest : List UInt8} (admits : Admits byte rest) :
    byte ≠ 0 := by
  rintro rfl
  exact admits.1 (by decide)

/-- Three is the only byte of at most three that is admitted. -/
theorem Admits.eq_preventionByte {byte : UInt8} {rest : List UInt8} (admits : Admits byte rest)
    (small : byte ≤ preventionByte) : byte = preventionByte := by
  have notBelow := admits.1
  rw [UInt8.le_iff_toNat_le] at notBelow small
  apply UInt8.toNat_inj.mp
  simp only [preventionByte, UInt8.reduceToNat] at *
  omega

theorem admits_preventionByte (rest : List UInt8) :
    Admits preventionByte rest ↔ ∃ next ∈ rest.head?, next ≤ preventionByte := by
  rw [Admits, and_iff_right (by decide)]
  exact ⟨fun needed => needed rfl, fun isNeeded _ => isNeeded⟩

theorem admits_of_not_le {byte : UInt8} (large : ¬ byte ≤ preventionByte) (rest : List UInt8) :
    Admits byte rest :=
  ⟨fun small => large (UInt8.le_trans small (by decide)),
    fun isInserted => absurd (UInt8.le_of_eq isInserted) large⟩

/-- The rule admits each byte that stands behind two zeros. -/
def AdmitsAll (unit : List UInt8) : Prop :=
  ∀ byte rest, 0 :: 0 :: byte :: rest <:+ unit → Admits byte rest

theorem admitsAll_iff (unit : List UInt8) :
    AdmitsAll unit ↔ FreeOfStartCodes unit ∧ EscapesNeeded unit := by
  constructor
  · intro admits
    constructor
    · rintro byte small ⟨front, back, unit_eq⟩
      rw [List.append_assoc] at unit_eq
      exact (admits byte back ⟨front, unit_eq⟩).1 small
    · intro front back unit_eq
      rw [List.append_assoc] at unit_eq
      exact (admits preventionByte back ⟨front, unit_eq.symm⟩).2 rfl
  · rintro ⟨free, needed⟩ byte rest ⟨front, unit_eq⟩
    constructor
    · intro small
      exact free byte small ⟨front, rest, by rw [List.append_assoc]; exact unit_eq⟩
    · rintro rfl
      exact needed front rest (by rw [List.append_assoc]; exact unit_eq.symm)

/-- One byte more brings at most one window more. -/
theorem admitsAll_cons (first : UInt8) (unit : List UInt8) :
    AdmitsAll (first :: unit) ↔
      (∀ byte rest, first = 0 → unit = 0 :: byte :: rest → Admits byte rest) ∧ AdmitsAll unit := by
  simp only [AdmitsAll, List.suffix_cons_iff, List.cons.injEq]
  constructor
  · intro admits
    constructor
    · rintro byte rest rfl rfl
      exact admits byte rest (Or.inl ⟨rfl, rfl⟩)
    · intro byte rest isSuffix
      exact admits byte rest (Or.inr isSuffix)
  · rintro ⟨admitsFirst, admits⟩ byte rest (⟨zero_eq, unit_eq⟩ | isSuffix)
    · exact admitsFirst byte rest zero_eq.symm unit_eq.symm
    · exact admits byte rest isSuffix

/-! ## The scan -/

/-- The rule admits each byte behind two zeros, where `zeros` zero bytes stand in front. -/
def AdmitsAfter : Nat → List UInt8 → Prop
  | _, [] => True
  | zeros, byte :: bytes =>
      (zeros = zerosBefore → Admits byte bytes) ∧ AdmitsAfter (zeroRun zeros byte) bytes

/-- A byte other than zero opens no window, and one zero in front of it opens none either. -/
theorem admitsAll_cons_of_ne {byte : UInt8} (notZero : byte ≠ 0) (bytes : List UInt8) :
    (AdmitsAll (byte :: bytes) ↔ AdmitsAll bytes) ∧
      (AdmitsAll (0 :: byte :: bytes) ↔ AdmitsAll bytes) := by
  have opensNone : AdmitsAll (byte :: bytes) ↔ AdmitsAll bytes := by
    rw [admitsAll_cons]
    exact and_iff_right fun _ _ isZero => absurd isZero notZero
  refine ⟨opensNone, ?_⟩
  rw [admitsAll_cons, opensNone]
  exact and_iff_right fun _ _ _ cons_eq => absurd (List.cons.inj cons_eq).1 notZero

/-- Two zeros in front of a byte open one window. -/
theorem admitsAll_cons_cons (byte : UInt8) (bytes : List UInt8) :
    AdmitsAll (0 :: 0 :: byte :: bytes) ↔ Admits byte bytes ∧ AdmitsAll bytes := by
  rw [admitsAll_cons]
  constructor
  · rintro ⟨admitsFirst, admits⟩
    have isAdmitted := admitsFirst byte bytes rfl rfl
    exact ⟨isAdmitted, (admitsAll_cons_of_ne isAdmitted.ne_zero bytes).2.mp admits⟩
  · rintro ⟨isAdmitted, admits⟩
    refine ⟨?_, (admitsAll_cons_of_ne isAdmitted.ne_zero bytes).2.mpr admits⟩
    rintro _ _ _ ⟨⟩
    exact isAdmitted

/-- The scan finds what the windows show. -/
theorem admitsAfter_iff {zeros : Nat} (few : zeros ≤ zerosBefore) (unit : List UInt8) :
    AdmitsAfter zeros unit ↔ AdmitsAll (List.replicate zeros 0 ++ unit) := by
  induction unit generalizing zeros with
  | nil =>
      refine iff_of_true trivial fun byte rest isSuffix => ?_
      have long := isSuffix.length_le
      rw [List.append_nil, List.length_replicate] at long
      simp only [List.length_cons, zerosBefore] at few long
      omega
  | cons byte bytes inductionHypothesis =>
      rw [AdmitsAfter]
      obtain isArmed | notArmed : zeros = zerosBefore ∨ zeros < zerosBefore := by omega
      · subst isArmed
        rw [zerosBefore, List.replicate_succ, List.replicate_one, List.cons_append,
          List.singleton_append, admitsAll_cons_cons]
        simp only [forall_const]
        refine and_congr_right fun isAdmitted => ?_
        rw [zeroRun, if_neg isAdmitted.ne_zero]
        exact inductionHypothesis (Nat.zero_le _)
      · rw [and_iff_right fun isArmed => absurd isArmed (Nat.ne_of_lt notArmed), zeroRun]
        by_cases isZero : byte = 0
        · subst isZero
          rw [if_pos rfl, inductionHypothesis notArmed, List.replicate_succ', List.append_assoc,
            List.singleton_append]
        · obtain ⟨alone, behindZero⟩ := admitsAll_cons_of_ne isZero bytes
          rw [if_neg isZero, inductionHypothesis (Nat.zero_le _)]
          obtain rfl | rfl : zeros = 0 ∨ zeros = 1 := by
            rw [zerosBefore] at notArmed
            omega
          · exact alone.symm
          · exact behindZero.symm

/-! ## Insertion behind removal -/

/-- Behind two zeros an inserted byte stands in front of a small byte, which is then escaped as if it
stood behind no zeros. -/
theorem insertAfter_armed_of_le {byte : UInt8} (small : byte ≤ preventionByte)
    (bytes : List UInt8) :
    insertAfter zerosBefore (byte :: bytes) = preventionByte :: insertAfter 0 (byte :: bytes) := by
  have notArmed : ¬ (0 = zerosBefore ∧ byte ≤ preventionByte) := fun armed =>
    Nat.noConfusion armed.1
  rw [insertAfter, if_pos ⟨rfl, small⟩, insertAfter, if_neg notArmed]

/-- A byte 3 behind two zeros is inserted again if the byte behind it needs it. -/
theorem insertAfter_armed_eq_iff (bytes : List UInt8) :
    insertAfter zerosBefore (removeAfter 0 bytes) = preventionByte :: bytes ↔
      (∃ next ∈ bytes.head?, next ≤ preventionByte) ∧
        insertAfter 0 (removeAfter 0 bytes) = bytes := by
  cases bytes with
  | nil => simp [removeAfter, insertAfter]
  | cons next bytes =>
      rw [removeAfter_zero_cons]
      simp only [List.head?_cons, Option.mem_def, Option.some.injEq, exists_eq_left']
      by_cases small : next ≤ preventionByte
      · rw [insertAfter_armed_of_le small, and_iff_right small, List.cons_inj_right]
      · rw [insertAfter, if_neg fun escaped => small escaped.2]
        refine iff_of_false ?_ fun needed => small needed.1
        intro unit_eq
        exact small (Nat.le_of_eq (congrArg UInt8.toNat (List.cons.inj unit_eq).1))

/-- Insertion gives a unit back exactly if the scan admits its bytes. -/
theorem insertAfter_removeAfter_iff {zeros : Nat} (few : zeros ≤ zerosBefore)
    (unit : List UInt8) :
    insertAfter zeros (removeAfter zeros unit) = unit ↔ AdmitsAfter zeros unit := by
  induction unit generalizing zeros with
  | nil => exact iff_of_true rfl trivial
  | cons byte bytes inductionHypothesis =>
      by_cases isArmed : zeros = zerosBefore
      · subst isArmed
        rw [AdmitsAfter, removeAfter]
        simp only [true_and, forall_const]
        by_cases isInserted : byte = preventionByte
        · subst isInserted
          rw [if_pos rfl, insertAfter_armed_eq_iff, inductionHypothesis (Nat.zero_le _),
            admits_preventionByte]
          rfl
        · rw [if_neg isInserted, insertAfter]
          simp only [true_and]
          by_cases small : byte ≤ preventionByte
          · -- Insertion puts a byte 3 in front of the byte, and the rule does not admit it.
            rw [if_pos small]
            refine iff_of_false (fun unit_eq => ?_) fun admitted => ?_
            · exact isInserted (List.cons.inj unit_eq).1.symm
            · exact isInserted (admitted.1.eq_preventionByte small)
          · have isAdmitted : Admits byte bytes := admits_of_not_le small bytes
            rw [if_neg small, List.cons_inj_right, and_iff_right isAdmitted]
            rw [zeroRun, if_neg isAdmitted.ne_zero]
            exact inductionHypothesis (Nat.zero_le _)
      · have stillFew : zeroRun zeros byte ≤ zerosBefore := by
          rw [zeroRun, zerosBefore] at *
          split <;> omega
        rw [AdmitsAfter, removeAfter, if_neg fun dropped => isArmed dropped.1, insertAfter,
          if_neg fun escaped => isArmed escaped.1, List.cons_inj_right,
          inductionHypothesis stillFew]
        exact (and_iff_right fun armed => absurd armed isArmed).symm

/-! ## The image of insertion -/

/-- Insertion behind removal gives a unit back exactly if nothing in it can be taken for a start code
and each inserted byte is needed. -/
theorem insert_remove_iff (unit : List UInt8) :
    insert (remove unit) = unit ↔ FreeOfStartCodes unit ∧ EscapesNeeded unit := by
  rw [insert, remove, insertAfter_removeAfter_iff (Nat.zero_le _),
    admitsAfter_iff (Nat.zero_le _), List.replicate_zero, List.nil_append, admitsAll_iff]

/-- Nothing in a unit that insertion gives can be taken for a start code. -/
theorem freeOfStartCodes_insert (payload : List UInt8) : FreeOfStartCodes (insert payload) := by
  have inverse : insert (remove (insert payload)) = insert payload := by rw [remove_insert]
  exact ((insert_remove_iff _).mp inverse).1

/-- Removal undoes insertion, and nothing in a unit that insertion gives can be taken for a start
code. Insertion undoes removal for exactly those units in which nothing can, and in which each byte 3
behind two zeros is needed for the byte behind it. -/
theorem insert_image :
    (∀ payload, remove (insert payload) = payload ∧ FreeOfStartCodes (insert payload)) ∧
      ∀ unit, insert (remove unit) = unit ↔ FreeOfStartCodes unit ∧ EscapesNeeded unit := by
  refine ⟨fun payload => ⟨remove_insert payload, ?_⟩, insert_remove_iff⟩
  exact freeOfStartCodes_insert payload

/-- At the end of a unit and in front of a large byte no byte 3 is needed. -/
example : insert (remove [0, 0, 3]) = [0, 0] ∧ insert (remove [0, 0, 3, 4]) = [0, 0, 4] := by
  decide

end CodedVideo.Emulation
