import CodedVideo.Proofs.Bits.Reads
import CodedVideo.Proofs.ExpGolomb

/-!
# Reads of known bits

A reader of plain bytes that stands in front of known bits reads the values that they write. A run
of zeros, a code and the trailing bits end where they say themselves, whatever follows.
-/

namespace CodedVideo

/-- The reader at `position` without a fault, in front of `bits`. -/
def PlainReader.before (position : Nat) (bits : List Bool) : PlainReader where
  source := { position, unread := bits }

namespace Reader

open PlainReader (before)

/-! ## Numbers -/

theorem take_before (position : Nat) (bits rest : List Bool) :
    BitSource.take bits.length (before position (bits ++ rest)).source =
      some (bits, (before (position + bits.length) rest).source) := by
  induction bits generalizing position with
  | nil => rfl
  | cons bit bits inductionHypothesis =>
      have following := inductionHypothesis (position + 1)
      simp only [before, List.length_cons, List.cons_append, BitSource.take, BitSource.next,
        PlainSource.next] at *
      simp only [following, Nat.add_assoc, Nat.add_comm 1]

/-- A read of the width of the next bits gives the number that they write. -/
theorem readBits_before (position : Nat) {count : Nat} {bits : List Bool}
    (length_eq : bits.length = count) (fits : count ≤ 32) (rest : List Bool) :
    readBits count (before position (bits ++ rest)) =
      (.ok (Bits.toNat bits), before (position + count) rest) := by
  have taken := take_before position bits rest
  have accepted : ¬ 32 < count := Nat.not_lt.mpr fits
  rw [length_eq] at taken
  simp only [readBits, before, if_neg accepted] at *
  rw [taken]

/-- A wide read joins the numbers of its two parts. -/
theorem readWideBits_before (position : Nat) {count : Nat} {bits : List Bool}
    (length_eq : bits.length = count) (fits : count ≤ 64) (rest : List Bool) :
    readWideBits count (before position (bits ++ rest)) =
      (.ok (Bits.toNat bits), before (position + count) rest) := by
  rw [readWideBits, if_neg (Nat.not_lt.mpr fits)]
  by_cases isNarrow : count ≤ 32
  · rw [if_pos isNarrow]
    exact readBits_before position length_eq isNarrow rest
  · obtain ⟨high, low, rfl, lowLength⟩ : ∃ high low, bits = high ++ low ∧ low.length = 32 :=
      ⟨bits.take (count - 32), bits.drop (count - 32), (List.take_append_drop _ _).symm, by
        rw [List.length_drop]
        omega⟩
    rw [List.length_append, lowLength] at length_eq
    have highLength : high.length = count - 32 := by omega
    have behind : position + (count - 32) + 32 = position + count := by omega
    rw [if_neg isNarrow, List.append_assoc, bind_apply,
      readBits_before position highLength (by omega)]
    simp only [resume]
    rw [bind_apply, readBits_before _ lowLength (Nat.le_refl 32), behind]
    simp only [resume, Bits.toNat_append, lowLength]
    rfl

/-- The next bit is read as a flag. -/
theorem readFlag_before (position : Nat) (flag : Bool) (rest : List Bool) :
    readFlag (before position (flag :: rest)) = (.ok flag, before (position + 1) rest) := by
  have read : readBits 1 (before position (flag :: rest)) = _ :=
    readBits_before position (List.length_singleton (a := flag)) (by decide) rest
  rw [readFlag, bind_apply, read]
  cases flag <;> rfl

/-- The bits up to the next byte boundary are passed over. -/
theorem align_before (position : Nat) {bits : List Bool}
    (length_eq : bits.length = Bits.toBoundary position) (rest : List Bool) :
    align (before position (bits ++ rest)) = (.ok (), before (position + bits.length) rest) := by
  have few : bits.length < 8 := by
    simp only [length_eq, Bits.toBoundary]
    omega
  have noWords : bits.length / 32 = 0 := Nat.div_eq_of_lt (by omega)
  have rest_eq : bits.length % 32 = bits.length := Nat.mod_eq_of_lt (by omega)
  have here : (before position (bits ++ rest)).position = position := rfl
  have skipped : skipWords 0 (before position (bits ++ rest)) =
      (.ok (), before position (bits ++ rest)) := rfl
  rw [align, here, ← length_eq, skip, noWords, rest_eq, bind_apply, skipped]
  by_cases isThere : bits.length ≠ 0
  · simp only [resume, if_pos isThere]
    rw [bind_apply, readBits_before position rfl (by omega)]
    rfl
  · have bits_eq : bits = [] := List.eq_nil_of_length_eq_zero (by omega)
    subst bits_eq
    rfl

/-! ## Codes -/

/-- The zeros in front of a one are counted, from what was counted before. -/
theorem readZeroRun_before (position : Nat) {bound zeros : Nat} (covered : zeros < bound)
    (counted : UInt32) (rest : List Bool) :
    readZeroRun bound counted (before position (List.replicate zeros false ++ true :: rest)) =
      (.ok (counted + UInt32.ofNat zeros), before (position + zeros + 1) rest) := by
  induction zeros generalizing position bound counted with
  | zero =>
      obtain ⟨bound, rfl⟩ := Nat.exists_eq_succ_of_ne_zero (Nat.ne_of_gt covered)
      have read : readBits 1 (before position (true :: rest)) = _ :=
        readBits_before position (List.length_singleton (a := true)) (by decide) rest
      have counted_eq : counted + UInt32.ofNat 0 = counted := UInt32.add_zero counted
      rw [readZeroRun, bind_apply, List.replicate_zero, List.nil_append, read, counted_eq]
      rfl
  | succ zeros inductionHypothesis =>
      obtain ⟨bound, rfl⟩ :=
        Nat.exists_eq_succ_of_ne_zero (Nat.ne_of_gt (Nat.zero_lt_of_lt covered))
      have read : readBits 1
          (before position (false :: (List.replicate zeros false ++ true :: rest))) = _ :=
        readBits_before position (List.length_singleton (a := false)) (by decide) _
      have following :=
        inductionHypothesis (position + 1) (Nat.lt_of_succ_lt_succ covered) (counted + 1)
      have counted_eq : counted + 1 + UInt32.ofNat zeros = counted + UInt32.ofNat (zeros + 1) := by
        rw [UInt32.ofNat_add, UInt32.add_assoc, UInt32.add_comm 1]
        rfl
      have behind : position + 1 + zeros + 1 = position + (zeros + 1) + 1 := by omega
      rw [counted_eq, behind] at following
      rw [readZeroRun, bind_apply, List.replicate_succ, List.cons_append, read]
      exact following

/-- Behind the zeros and the one their number, as it is counted, decides how a code goes on. -/
theorem readCodeNumber_zeros (position zeros : Nat) (rest : List Bool) :
    readCodeNumber (before position (List.replicate zeros false ++ true :: rest)) =
      (if 32 < ExpGolomb.wrappedCount zeros then fail .codeTooLarge
        else readBits (ExpGolomb.wrappedCount zeros) >>= fun suffix =>
          pure (1 <<< ExpGolomb.wrappedCount zeros - 1 + suffix))
        (before (position + zeros + 1) rest) := by
  have covered :
      zeros < (before position (List.replicate zeros false ++ true :: rest)).bitsLeft + 1 := by
    simp only [bitsLeft, BitSource.bitsLeft, before, List.length_append, List.length_replicate]
    omega
  have counts_eq : (UInt32.ofNat zeros).toNat = ExpGolomb.wrappedCount zeros := UInt32.toNat_ofNat
  rw [readCodeNumber_apply, bind_apply, readZeroRun_before position covered, UInt32.zero_add]
  simp only [resume, UInt32.lt_iff_toNat_lt, counts_eq]
  rfl

/-- A code is read as its number, up to its own end. -/
theorem readCodeNumber_before (position : Nat) {number : Nat}
    (inRange : number ≤ ExpGolomb.unsignedLimit) (rest : List Bool) :
    readCodeNumber (before position (ExpGolomb.code number ++ rest)) =
      (.ok number, before (position + (ExpGolomb.code number).length) rest) := by
  have few := ExpGolomb.leadingZeros_le inRange
  have count_eq : ExpGolomb.wrappedCount (ExpGolomb.leadingZeros number) =
      ExpGolomb.leadingZeros number :=
    ExpGolomb.wrappedCount_eq (Nat.lt_of_le_of_lt few (by decide))
  have suffixRead := readBits_before (position + ExpGolomb.leadingZeros number + 1)
    (Bits.length_ofNat (ExpGolomb.leadingZeros number) (number + 1)) few rest
  have behind : position + ExpGolomb.leadingZeros number + 1 + ExpGolomb.leadingZeros number =
      position + (ExpGolomb.code number).length := by
    rw [ExpGolomb.length_code, ExpGolomb.codeLength]
    omega
  rw [behind, Bits.toNat_ofNat] at suffixRead
  rw [ExpGolomb.code, List.append_assoc, List.cons_append, readCodeNumber_zeros, count_eq,
    if_neg (Nat.not_lt.mpr few), bind_apply, suffixRead]
  simp only [resume]
  rw [ExpGolomb.number_eq]
  rfl

theorem readUnsigned_before (position : Nat) {value : Nat}
    (inRange : value < ExpGolomb.unsignedLimit) (rest : List Bool) :
    readUnsigned (before position (ExpGolomb.code value ++ rest)) =
      (.ok value, before (position + (ExpGolomb.code value).length) rest) := by
  rw [readUnsigned, bind_apply, readCodeNumber_before position (Nat.le_of_lt inRange)]
  simp only [resume, if_pos inRange]
  rfl

theorem readSigned_before (position : Nat) {value : Int} (fits : ExpGolomb.fitsSigned value = true)
    (rest : List Bool) :
    readSigned (before position (ExpGolomb.code (ExpGolomb.ofSigned value) ++ rest)) =
      (.ok value, before (position + (ExpGolomb.code (ExpGolomb.ofSigned value)).length) rest) := by
  rw [readSigned, bind_apply, readCodeNumber_before position (ExpGolomb.ofSigned_le fits)]
  simp only [resume, ExpGolomb.toSigned_ofSigned fits, if_pos fits]
  rfl

/-! ## The end of the payload -/

theorem hasOneWithin_before (position : Nat) {bound : Nat} {bits : List Bool}
    (covered : bits.length ≤ bound) :
    BitSource.hasOneWithin bound (before position bits).source = true ↔ true ∈ bits := by
  induction bits generalizing position bound with
  | nil => cases bound <;> simp [BitSource.hasOneWithin, before, BitSource.next, PlainSource.next]
  | cons bit bits inductionHypothesis =>
      cases bound with
      | zero => exact absurd covered (Nat.not_succ_le_zero _)
      | succ bound =>
          have following := inductionHypothesis (position + 1) (Nat.le_of_succ_le_succ covered)
          cases bit with
          | true => simp [BitSource.hasOneWithin, before, BitSource.next, PlainSource.next]
          | false =>
              rw [List.mem_cons]
              simp only [Bool.true_eq_false, false_or]
              exact following

/-- In front of the trailing bits there is more data exactly if a bit stands there. -/
theorem hasMoreData_before (position : Nat) (bits : List Bool) (zeros : Nat) :
    (before position (bits ++ true :: List.replicate zeros false)).hasMoreData = true ↔
      bits ≠ [] := by
  cases bits with
  | nil =>
      have noOne := hasOneWithin_before (position + 1)
        (Nat.le_refl (List.replicate zeros false).length)
      simp only [List.mem_replicate, Bool.true_eq_false, and_false, iff_false] at noOne
      simp only [ne_eq, not_true_eq_false, iff_false]
      exact noOne
  | cons bit bits =>
      cases bit with
      | false => simp [hasMoreData, BitSource.hasMoreData, before, BitSource.next, PlainSource.next]
      | true =>
          have hasOne := hasOneWithin_before (position + 1)
            (Nat.le_refl (bits ++ true :: List.replicate zeros false).length)
          have isThere : true ∈ bits ++ true :: List.replicate zeros false := by simp
          simp only [ne_eq, reduceCtorEq, not_false_eq_true, iff_true]
          exact hasOne.mpr isThere

theorem readZerosToEnd_before (position : Nat) {bound zeros : Nat} (covered : zeros ≤ bound) :
    readZerosToEnd bound (before position (List.replicate zeros false)) =
      (.ok (), before (position + zeros) []) := by
  induction zeros generalizing position bound with
  | zero => exact readZerosToEnd_of_atEnd rfl
  | succ zeros inductionHypothesis =>
      obtain ⟨bound, rfl⟩ :=
        Nat.exists_eq_succ_of_ne_zero (Nat.ne_of_gt (Nat.zero_lt_of_lt covered))
      have read : readBits 1 (before position (false :: List.replicate zeros false)) = _ :=
        readBits_before position (List.length_singleton (a := false)) (by decide) _
      have following := inductionHypothesis (position + 1) (Nat.le_of_succ_le_succ covered)
      have notAtEnd : ¬ (before position (false :: List.replicate zeros false)).atEnd = true :=
        Bool.false_ne_true
      rw [List.replicate_succ, Nat.succ_eq_add_one, readZerosToEnd_succ notAtEnd, bind_apply, read]
      simp only [resume]
      refine Eq.trans following ?_
      congr 2
      omega

/-- The trailing bits are read up to the end. -/
theorem readTrailingBits_before (position zeros : Nat) :
    readTrailingBits (before position (true :: List.replicate zeros false)) =
      (.ok (), before (position + 1 + zeros) []) := by
  have read : readBits 1 (before position (true :: List.replicate zeros false)) = _ :=
    readBits_before position (List.length_singleton (a := true)) (by decide) _
  rw [readTrailingBits_apply, bind_apply, read]
  refine readZerosToEnd_before (position + 1) ?_
  simp only [bitsLeft, BitSource.bitsLeft, before, List.length_replicate]
  exact Nat.le_refl zeros

/-- The next bit is the first one that is not handed out yet. -/
theorem unread_of_next {source rest : PlainSource} {bit : Bool}
    (next_eq : BitSource.next source = some (bit, rest)) : source.unread = bit :: rest.unread := by
  rcases source with ⟨position, _ | ⟨first, unread⟩⟩
  · cases next_eq
  · cases next_eq
    rfl

/-- Bits that are read as the zeros up to the end are zeros. -/
theorem unread_of_readZerosToEnd {bound : Nat} {reader last : PlainReader}
    (covered : reader.source.unread.length ≤ bound)
    (read : readZerosToEnd bound reader = (.ok (), last)) :
    ∃ zeros, reader.source.unread = List.replicate zeros false := by
  induction bound generalizing reader with
  | zero => exact ⟨0, List.eq_nil_of_length_eq_zero (Nat.le_zero.mp covered)⟩
  | succ bound inductionHypothesis =>
      by_cases atEnd : reader.atEnd = true
      · exists 0
        rcases reader with ⟨⟨position, _ | ⟨bit, unread⟩⟩, fault⟩
        · rfl
        · cases atEnd
      · rw [readZerosToEnd_succ atEnd] at read
        obtain ⟨bit, rest, bitRead, restRead⟩ := bind_eq_ok read
        obtain ⟨value, next_eq, rfl⟩ := next_of_readBits_one bitRead
        have unread_eq := unread_of_next next_eq
        rw [unread_eq] at covered ⊢
        cases value with
        | true => cases restRead
        | false =>
            obtain ⟨zeros, rest_eq⟩ := inductionHypothesis (Nat.le_of_succ_le_succ covered) restRead
            exact ⟨zeros + 1, by rw [rest_eq, List.replicate_succ]⟩

/-- What is read as trailing bits is a one and the zeros behind it. -/
theorem unread_of_readTrailingBits {reader last : PlainReader}
    (read : readTrailingBits reader = (.ok (), last)) :
    reader.fault = none ∧ ∃ zeros, reader.source.unread = true :: List.replicate zeros false := by
  rw [readTrailingBits_apply] at read
  obtain ⟨bit, rest, bitRead, restRead⟩ := bind_eq_ok read
  obtain ⟨value, next_eq, rfl⟩ := next_of_readBits_one bitRead
  refine ⟨fault_eq_none_of_readBits bitRead, ?_⟩
  cases value with
  | false => cases restRead
  | true =>
      obtain ⟨zeros, rest_eq⟩ := unread_of_readZerosToEnd (Nat.le_refl _) restRead
      exact ⟨zeros, by rw [unread_of_next next_eq, rest_eq]⟩

end Reader

end CodedVideo
