import CodedVideo.Proofs.Standing

/-!
# How reading a code ends

The bits in front of a reader say by themselves how reading a code from them ends: with the value of
the code that they open with, or with a fault, and behind how many bits. The code of a number is the
only one that opens with its zeros and its suffix. So nothing is read as a value that it does not
stand for, as long as the counter of the zeros does not start again: a counter of 32 bits does so
behind `2 ^ 32` zeros, and what follows is then read as a code with fewer zeros.

Main statements: `readers_readCodes` and `readUnsigned_wraps`.
-/

namespace CodedVideo

open PlainReader (before)

/-! ## Codes by their suffix -/

namespace ExpGolomb

/-- The number of the code with a given suffix, in front of which stand as many zeros and a one. -/
def numberOf (suffix : List Bool) : Nat :=
  1 <<< suffix.length - 1 + Bits.toNat suffix

theorem numberOf_succ (suffix : List Bool) :
    numberOf suffix + 1 = 1 <<< suffix.length + Bits.toNat suffix := by
  have positive : 0 < 1 <<< suffix.length := Nat.zero_lt_of_lt (Bits.toNat_lt suffix)
  rw [numberOf]
  omega

theorem leadingZeros_numberOf (suffix : List Bool) :
    leadingZeros (numberOf suffix) = suffix.length := by
  have below := Bits.toNat_lt suffix
  have succ_eq := numberOf_succ suffix
  rw [Nat.shiftLeft_eq, Nat.one_mul] at below succ_eq
  have notZero : numberOf suffix + 1 ≠ 0 := Nat.succ_ne_zero _
  rw [leadingZeros, Nat.log2_eq_iff notZero, Nat.pow_succ]
  omega

theorem codeLength_numberOf (suffix : List Bool) :
    codeLength (numberOf suffix) = 2 * suffix.length + 1 := by
  rw [codeLength, leadingZeros_numberOf]

/-- The code of a number consists of the zeros, the one and the suffix. -/
theorem code_numberOf (suffix : List Bool) :
    code (numberOf suffix) = List.replicate suffix.length false ++ true :: suffix := by
  have below := Bits.toNat_lt suffix
  have low_eq : Bits.toNat (Bits.ofNat suffix.length (numberOf suffix + 1)) = Bits.toNat suffix := by
    rw [Bits.toNat_ofNat, numberOf_succ, Nat.add_mod_left, Nat.mod_eq_of_lt below]
  have suffix_eq := Bits.ofNat_toNat (Bits.ofNat suffix.length (numberOf suffix + 1))
  rw [Bits.length_ofNat, low_eq, Bits.ofNat_toNat] at suffix_eq
  rw [code, leadingZeros_numberOf, ← suffix_eq]

/-- At most 32 zeros leave room for both kinds of numbers. -/
theorem number_lt {number : Nat} (few : leadingZeros number ≤ 32) : number < 8589934592 := by
  have power_le : 1 <<< (leadingZeros number + 1) ≤ 1 <<< 33 := by
    rw [Nat.shiftLeft_eq, Nat.shiftLeft_eq, Nat.one_mul, Nat.one_mul]
    exact Nat.pow_le_pow_right Nat.zero_lt_two (Nat.succ_le_succ few)
  calc number
      < number + 1 := Nat.lt_succ_self number
    _ < 1 <<< (leadingZeros number + 1) := (succ_bounds number).2
    _ ≤ 8589934592 := power_le

/-- The number that a value was decoded from is the one that carries it. -/
theorem ofSigned_toSigned {number : Nat} (inRange : number < 8589934592) :
    ofSigned (toSigned number) = number := by
  by_cases isOdd : number % 2 = 1
  · have bmod_eq : ((number / 2 + number % 2 : Nat) : Int).bmod 18446744073709551616 =
        (number / 2 + number % 2 : Nat) := by
      apply Int.bmod_eq_of_le <;> omega
    rw [toSigned, if_pos isOdd, bmod_eq, ofSigned, if_pos (by omega)]
    omega
  · rw [toSigned, if_neg isOdd, ofSigned, if_neg (by omega)]
    omega

/-! ### Where a number is read from -/

/-- The bits from which a number is read, if behind some zeros and a one the suffix is as long as a
counter of the zeros shows. -/
inductive ReadAs (counter : Nat → Nat) : Nat → List Bool → Prop where
  | intro {zeros : Nat} {suffix : List Bool} (length_eq : suffix.length = counter zeros) :
      ReadAs counter (numberOf suffix) (List.replicate zeros false ++ true :: suffix)

/-- With all zeros counted a number is read from its code alone. -/
theorem readAs_id_iff {number : Nat} {front : List Bool} :
    ReadAs id number front ↔ front = code number := by
  constructor
  · rintro ⟨length_eq⟩
    rw [code_numberOf, length_eq, id]
  · rintro rfl
    have length_eq := Bits.length_ofNat (leadingZeros number) (number + 1)
    have number_eq : numberOf (Bits.ofNat (leadingZeros number) (number + 1)) = number := by
      rw [numberOf, Bits.toNat_ofNat, length_eq, ExpGolomb.number_eq]
    have readAs : ReadAs id _ (List.replicate (leadingZeros number) false ++ _) := .intro length_eq
    rwa [number_eq] at readAs

/-- Counters that agree on the zeros of some bits read the same from them. -/
theorem ReadAs.congr {counter other : Nat → Nat} {number : Nat} {front : List Bool}
    (readAs : ReadAs counter number front)
    (agree : ∀ zeros, zeros < front.length → counter zeros = other zeros) :
    ReadAs other number front := by
  obtain ⟨length_eq⟩ := readAs
  refine .intro (length_eq.trans (agree _ ?_))
  rw [List.length_append, List.length_replicate, List.length_cons]
  omega

/-- The code of a number with few zeros is read as that number by a counter of 32 bits. -/
theorem readAs_code {number : Nat} (inRange : number ≤ unsignedLimit) :
    ReadAs wrappedCount number (code number) := by
  refine (readAs_id_iff.mpr rfl).congr fun zeros isFewer => ?_
  have few := leadingZeros_le inRange
  rw [length_code, codeLength] at isFewer
  have countable : zeros < 4294967296 := by omega
  exact (wrappedCount_eq countable).symm

end ExpGolomb

/-! ## Endings -/

open ExpGolomb (numberOf)

/-- An unsigned field of 32 bits carries a number that it can hold. -/
def CarriesUnsigned (value number : Nat) : Prop :=
  value = number ∧ value ≤ 4294967295

/-- A signed field of 32 bits is carried by the code number of its value. -/
def CarriesSigned (value : Int) (number : Nat) : Prop :=
  (-2147483648 ≤ value ∧ value ≤ 2147483647) ∧ ExpGolomb.ofSigned value = number

/-- How reading a code ends in front of given bits, if `counter` shows how long the suffix is behind
a number of zeros, and `Carries` says which value of the target a number stands for: the result, and
the number of bits that are passed. -/
inductive CodeEnding {α : Type} (counter : Nat → Nat) (Carries : α → Nat → Prop) :
    List Bool → Except BitFault α → Nat → Prop where
  /-- Zeros, a one and a suffix are passed, if their number stands for a value. -/
  | value {front rest : List Bool} {number : Nat} {value : α}
      (readAs : ExpGolomb.ReadAs counter number front) (carried : Carries value number) :
      CodeEnding counter Carries (front ++ rest) (.ok value) front.length
  /-- Without a one the data ends. -/
  | noOne (zeros : Nat) :
      CodeEnding counter Carries (List.replicate zeros false) (.error .unexpectedEnd) zeros
  /-- A code with too many zeros is refused behind its one. -/
  | tooManyZeros {zeros : Nat} {rest : List Bool} (tooMany : 32 < counter zeros) :
      CodeEnding counter Carries (List.replicate zeros false ++ true :: rest)
        (.error .codeTooLarge) (zeros + 1)
  /-- Where the data ends inside the suffix, nothing of the suffix is passed. -/
  | cutShort {zeros : Nat} {rest : List Bool} (few : counter zeros ≤ 32)
      (short : rest.length < counter zeros) :
      CodeEnding counter Carries (List.replicate zeros false ++ true :: rest)
        (.error .unexpectedEnd) (zeros + 1)
  /-- A code whose number does not fit the target is refused behind its end. -/
  | tooLarge {front rest : List Bool} {number : Nat}
      (readAs : ExpGolomb.ReadAs counter number front) (few : ExpGolomb.leadingZeros number ≤ 32)
      (notCarried : ∀ value, ¬ Carries value number) :
      CodeEnding counter Carries (front ++ rest) (.error .codeTooLarge) front.length

/-- Bits hold no one, or a first one behind some zeros. -/
theorem Bits.zeros_or_one (bits : List Bool) :
    bits = List.replicate bits.length false ∨
      ∃ zeros rest, bits = List.replicate zeros false ++ true :: rest := by
  induction bits with
  | nil => exact Or.inl rfl
  | cons bit bits inductionHypothesis =>
      cases bit with
      | true => exact Or.inr ⟨0, bits, rfl⟩
      | false =>
          refine inductionHypothesis.imp (congrArg (false :: ·)) ?_
          rintro ⟨zeros, rest, rfl⟩
          exact ⟨zeros + 1, rest, rfl⟩

/-- The first one stands behind one number of zeros. -/
theorem Bits.zeros_unique {zeros others : Nat} {rest last : List Bool}
    (same : List.replicate zeros false ++ true :: rest =
      List.replicate others false ++ true :: last) : zeros = others ∧ rest = last := by
  induction zeros generalizing others with
  | zero =>
      cases others with
      | zero => exact ⟨rfl, (List.cons.inj same).2⟩
      | succ others => cases (List.cons.inj same).1
  | succ zeros inductionHypothesis =>
      cases others with
      | zero => cases (List.cons.inj same).1
      | succ others =>
          obtain ⟨zeros_eq, rest_eq⟩ := inductionHypothesis (List.cons.inj same).2
          exact ⟨congrArg Nat.succ zeros_eq, rest_eq⟩

theorem Bits.one_ne_zeros (front rest : List Bool) (zeros : Nat) :
    front ++ true :: rest ≠ List.replicate zeros false := by
  intro same
  have isThere : true ∈ List.replicate zeros false := by
    rw [← same]
    exact List.mem_append_right front List.mem_cons_self
  cases List.eq_of_mem_replicate isThere

/-- Reading a code ends in some way in front of any bits. -/
theorem CodeEnding.exists_of_bits {α : Type} (counter : Nat → Nat) (Carries : α → Nat → Prop)
    (bits : List Bool) : ∃ result count, CodeEnding counter Carries bits result count := by
  rcases Bits.zeros_or_one bits with noOne | ⟨zeros, rest, rfl⟩
  · rw [noOne]
    exact ⟨_, _, .noOne bits.length⟩
  · by_cases few : counter zeros ≤ 32
    · by_cases short : rest.length < counter zeros
      · exact ⟨_, _, .cutShort few short⟩
      · obtain ⟨suffix, others, rfl, length_eq⟩ :
            ∃ suffix others, suffix ++ others = rest ∧ suffix.length = counter zeros :=
          ⟨rest.take (counter zeros), rest.drop (counter zeros), List.take_append_drop _ rest,
            List.length_take_of_le (Nat.le_of_not_lt short)⟩
        have readAs : ExpGolomb.ReadAs counter _ _ := .intro length_eq
        rw [← List.cons_append, ← List.append_assoc]
        by_cases carried : ∃ value, Carries value (numberOf suffix)
        · obtain ⟨value, carried⟩ := carried
          exact ⟨_, _, .value readAs carried⟩
        · refine ⟨_, _, .tooLarge readAs ?_ fun value isCarried => carried ⟨value, isCarried⟩⟩
          rwa [ExpGolomb.leadingZeros_numberOf, length_eq]
    · exact ⟨_, _, .tooManyZeros (Nat.lt_of_not_le few)⟩

/-- In front of bits that give an unsigned value stand those from which the value is read. -/
theorem CodeEnding.exists_readAs {counter : Nat → Nat} {bits : List Bool} {value count : Nat}
    (ending : CodeEnding counter CarriesUnsigned bits (.ok value) count) :
    value ≤ 4294967295 ∧ ∃ front rest, ExpGolomb.ReadAs counter value front ∧
      bits = front ++ rest := by
  cases ending with
  | @value front rest number value readAs carried =>
      rcases carried with ⟨rfl, inRange⟩
      exact ⟨inRange, front, rest, readAs, rfl⟩

/-- Counters that agree on the zeros in front of the first one give the same ending. -/
theorem CodeEnding.congr {α : Type} {counter other : Nat → Nat} {Carries : α → Nat → Prop}
    {bits : List Bool} {result : Except BitFault α} {count : Nat}
    (ending : CodeEnding counter Carries bits result count)
    (agree : ∀ zeros rest, bits = List.replicate zeros false ++ true :: rest →
      counter zeros = other zeros) :
    CodeEnding other Carries bits result count := by
  cases ending with
  | value readAs carried =>
      obtain ⟨length_eq⟩ := readAs
      have count_eq := agree _ _ (List.append_assoc _ _ _)
      exact .value (.intro (length_eq.trans count_eq)) carried
  | noOne => exact .noOne _
  | tooManyZeros tooMany =>
      rw [agree _ _ rfl] at tooMany
      exact .tooManyZeros tooMany
  | cutShort few short =>
      rw [agree _ _ rfl] at few short
      exact .cutShort few short
  | tooLarge readAs few notCarried =>
      obtain ⟨length_eq⟩ := readAs
      have count_eq := agree _ _ (List.append_assoc _ _ _)
      exact .tooLarge (.intro (length_eq.trans count_eq)) few notCarried

theorem CodeEnding.congr_iff {α : Type} {counter other : Nat → Nat} {Carries : α → Nat → Prop}
    {bits : List Bool} {result : Except BitFault α} {count : Nat}
    (agree : ∀ zeros rest, bits = List.replicate zeros false ++ true :: rest →
      counter zeros = other zeros) :
    CodeEnding counter Carries bits result count ↔ CodeEnding other Carries bits result count :=
  ⟨(·.congr agree), (·.congr fun zeros rest bits_eq => (agree zeros rest bits_eq).symm)⟩

/-- A target of codes carries only numbers whose codes have at most 32 zeros. -/
def FewZeros {α : Type} (Carries : α → Nat → Prop) : Prop :=
  ∀ ⦃value number⦄, Carries value number → ExpGolomb.leadingZeros number ≤ 32

/-- Behind too many zeros a code ends with the one, and in no other way. -/
theorem CodeEnding.tooMany_iff {α : Type} {counter : Nat → Nat} {Carries : α → Nat → Prop}
    (fewZeros : FewZeros Carries) {zeros : Nat} (tooMany : 32 < counter zeros) (rest : List Bool)
    {result : Except BitFault α} {count : Nat} :
    CodeEnding counter Carries (List.replicate zeros false ++ true :: rest) result count ↔
      result = .error .codeTooLarge ∧ count = zeros + 1 := by
  constructor
  · intro ending
    generalize bits_eq : List.replicate zeros false ++ true :: rest = bits at ending
    cases ending with
    | value readAs carried =>
        obtain ⟨length_eq⟩ := readAs
        obtain ⟨rfl, _⟩ := Bits.zeros_unique (bits_eq.trans (List.append_assoc _ _ _))
        have few := fewZeros carried
        rw [ExpGolomb.leadingZeros_numberOf] at few
        omega
    | noOne => exact absurd bits_eq (Bits.one_ne_zeros _ _ _)
    | tooManyZeros =>
        obtain ⟨rfl, _⟩ := Bits.zeros_unique bits_eq
        exact ⟨rfl, rfl⟩
    | cutShort few =>
        obtain ⟨rfl, _⟩ := Bits.zeros_unique bits_eq
        exact absurd tooMany (Nat.not_lt.mpr few)
    | tooLarge readAs few =>
        obtain ⟨length_eq⟩ := readAs
        obtain ⟨rfl, _⟩ := Bits.zeros_unique (bits_eq.trans (List.append_assoc _ _ _))
        rw [ExpGolomb.leadingZeros_numberOf] at few
        omega
  · rintro ⟨rfl, rfl⟩
    exact .tooManyZeros tooMany

/-- An unsigned code that is refused right behind its one has too many zeros. -/
theorem CodeEnding.tooMany_of_refused {counter : Nat → Nat} {zeros : Nat} {rest : List Bool}
    (ending : CodeEnding counter CarriesUnsigned (List.replicate zeros false ++ true :: rest)
      (.error .codeTooLarge) (zeros + 1)) : 32 < counter zeros := by
  generalize bits_eq : List.replicate zeros false ++ true :: rest = bits at ending
  generalize count_eq : zeros + 1 = count at ending
  cases ending with
  | tooManyZeros tooMany =>
      obtain ⟨rfl, _⟩ := Bits.zeros_unique bits_eq
      exact tooMany
  | tooLarge readAs few notCarried =>
      obtain @⟨others, suffix, length_eq⟩ := readAs
      obtain ⟨rfl, _⟩ := Bits.zeros_unique (bits_eq.trans (List.append_assoc _ _ _))
      rw [List.length_append, List.length_replicate, List.length_cons] at count_eq
      have noSuffix : suffix = [] := List.eq_nil_of_length_eq_zero (by omega)
      subst noSuffix
      exact absurd ⟨rfl, Nat.zero_le _⟩ (notCarried 0)

/-! ## Reading -/

/-- What a result leaves in the latch of a reader without a fault. -/
def BitFault.ofResult {α : Type} : Except BitFault α → Option BitFault
  | .ok _ => none
  | .error fault => some fault

namespace Reader

/-- Without a one the zeros are counted to the end of the data. -/
theorem readZeroRun_noOne (position : Nat) {bound zeros : Nat} (covered : zeros < bound)
    (counted : UInt32) :
    readZeroRun bound counted (before position (List.replicate zeros false)) =
      (.error .unexpectedEnd,
        { before (position + zeros) [] with fault := some .unexpectedEnd }) := by
  induction zeros generalizing position bound counted with
  | zero =>
      obtain ⟨bound, rfl⟩ := Nat.exists_eq_succ_of_ne_zero (Nat.ne_of_gt covered)
      rw [readZeroRun, bind_apply]
      rfl
  | succ zeros inductionHypothesis =>
      obtain ⟨bound, rfl⟩ :=
        Nat.exists_eq_succ_of_ne_zero (Nat.ne_of_gt (Nat.zero_lt_of_lt covered))
      have read : readBits 1 (before position (false :: List.replicate zeros false)) = _ :=
        readBits_before position (List.length_singleton (a := false)) (by decide) _
      have following :=
        inductionHypothesis (position + 1) (Nat.lt_of_succ_lt_succ covered) (counted + 1)
      rw [Nat.add_assoc, Nat.add_comm 1] at following
      rw [readZeroRun, bind_apply, List.replicate_succ, read]
      exact following

theorem readCodeNumber_noOne (position zeros : Nat) :
    readCodeNumber (before position (List.replicate zeros false)) =
      (.error .unexpectedEnd,
        { before (position + zeros) [] with fault := some .unexpectedEnd }) := by
  have covered : zeros < (before position (List.replicate zeros false)).bitsLeft + 1 := by
    simp only [bitsLeft, BitSource.bitsLeft, before, List.length_replicate]
    exact Nat.lt_succ_self zeros
  rw [readCodeNumber_apply, bind_apply, readZeroRun_noOne position covered]
  rfl

theorem take_short (position : Nat) {count : Nat} {bits : List Bool}
    (short : bits.length < count) : BitSource.take count (before position bits).source = none := by
  induction bits generalizing position count with
  | nil =>
      obtain ⟨count, rfl⟩ := Nat.exists_eq_succ_of_ne_zero (Nat.ne_of_gt short)
      rfl
  | cons bit bits inductionHypothesis =>
      obtain ⟨count, rfl⟩ :=
        Nat.exists_eq_succ_of_ne_zero (Nat.ne_of_gt (Nat.zero_lt_of_lt short))
      have following := inductionHypothesis (position + 1) (Nat.lt_of_succ_lt_succ short)
      simp only [before] at following
      simp only [before, BitSource.take, BitSource.next, PlainSource.next, following]

/-- Where fewer bits are left than are asked for, none is read. -/
theorem readBits_short (position : Nat) {count : Nat} (fits : count ≤ 32) {bits : List Bool}
    (short : bits.length < count) :
    readBits count (before position bits) =
      (.error .unexpectedEnd, { before position bits with fault := some .unexpectedEnd }) := by
  have noFault : (before position bits).fault = none := rfl
  simp only [readBits, noFault, if_neg (Nat.not_lt.mpr fits), take_short position short]
  rfl

/-- Behind the zeros and the one stands what follows them. -/
theorem drop_zeros (zeros : Nat) (rest : List Bool) :
    (List.replicate zeros false ++ true :: rest).drop (zeros + 1) = rest := by
  rw [List.append_cons]
  apply List.drop_left'
  rw [List.length_append, List.length_replicate, List.length_singleton]

/-- The bits from which a number is read give that number, if it has few zeros. -/
theorem readCodeNumber_readAs (position : Nat) {number : Nat} {front : List Bool}
    (readAs : ExpGolomb.ReadAs ExpGolomb.wrappedCount number front)
    (few : ExpGolomb.leadingZeros number ≤ 32) (rest : List Bool) :
    readCodeNumber (before position (front ++ rest)) =
      (.ok number, before (position + front.length) rest) := by
  obtain @⟨zeros, suffix, length_eq⟩ := readAs
  rw [ExpGolomb.leadingZeros_numberOf] at few
  have behind : position + zeros + 1 + suffix.length =
      position + (List.replicate zeros false ++ true :: suffix).length := by
    rw [List.length_append, List.length_replicate, List.length_cons]
    omega
  rw [List.append_assoc, List.cons_append, readCodeNumber_zeros, ← length_eq,
    if_neg (Nat.not_lt.mpr few), bind_apply, readBits_before _ rfl few, behind]
  rfl

/-- What is made of a code number: the value that it stands for, or a refusal. -/
structure ChecksCarried {α : Type} (Carries : α → Nat → Prop)
    (check : Nat → ReadM PlainSource α) : Prop where
  number_le : ∀ {value number}, Carries value number → number ≤ ExpGolomb.unsignedLimit
  accepts : ∀ {value number}, Carries value number → check number = pure value
  refuses : ∀ {number}, number < 8589934592 → (∀ value, ¬ Carries value number) →
    check number = fail .codeTooLarge

theorem ChecksCarried.fewZeros {α : Type} {Carries : α → Nat → Prop}
    {check : Nat → ReadM PlainSource α} (checks : ChecksCarried Carries check) :
    FewZeros Carries :=
  fun _ _ carried => ExpGolomb.leadingZeros_le (checks.number_le carried)

/-- Reading ends as the bits say. -/
theorem read_of_codeEnding {α : Type} {Carries : α → Nat → Prop}
    {check : Nat → ReadM PlainSource α} (checks : ChecksCarried Carries check) {bits : List Bool}
    {result : Except BitFault α} {count : Nat}
    (ending : CodeEnding ExpGolomb.wrappedCount Carries bits result count) (position : Nat) :
    (readCodeNumber >>= check) (before position bits) =
      (result, { before (position + count) (bits.drop count) with
        fault := BitFault.ofResult result }) := by
  rw [bind_apply]
  cases ending with
  | value readAs carried =>
      rw [readCodeNumber_readAs position readAs (checks.fewZeros carried), List.drop_left]
      simp only [resume, checks.accepts carried]
      rfl
  | noOne zeros =>
      rw [readCodeNumber_noOne, List.drop_of_length_le (Nat.le_of_eq List.length_replicate)]
      rfl
  | tooManyZeros tooMany =>
      rw [readCodeNumber_zeros, if_pos tooMany, drop_zeros]
      rfl
  | cutShort few short =>
      rw [readCodeNumber_zeros, if_neg (Nat.not_lt.mpr few), bind_apply, readBits_short _ few short,
        drop_zeros]
      rfl
  | tooLarge readAs few notCarried =>
      rw [readCodeNumber_readAs position readAs few, List.drop_left]
      simp only [resume, checks.refuses (ExpGolomb.number_lt few) notCarried]
      rfl

theorem checksCarried_unsigned :
    ChecksCarried CarriesUnsigned fun number =>
      if number < ExpGolomb.unsignedLimit then pure number else fail .codeTooLarge where
  number_le := by
    rintro _ number ⟨rfl, inRange⟩
    exact Nat.le_succ_of_le inRange
  accepts := by
    rintro _ number ⟨rfl, inRange⟩
    exact if_pos (Nat.lt_succ_of_le inRange)
  refuses := by
    intro number _ notCarried
    exact if_neg fun inRange => notCarried number ⟨rfl, Nat.le_of_lt_succ inRange⟩

theorem fitsSigned_iff {value : Int} :
    ExpGolomb.fitsSigned value = true ↔ -2147483648 ≤ value ∧ value ≤ 2147483647 := by
  simp only [ExpGolomb.fitsSigned, Bool.and_eq_true, decide_eq_true_eq]

theorem checksCarried_signed :
    ChecksCarried CarriesSigned fun number =>
      if ExpGolomb.fitsSigned (ExpGolomb.toSigned number) then pure (ExpGolomb.toSigned number)
      else fail .codeTooLarge where
  number_le := by
    rintro value _ ⟨fits, rfl⟩
    exact ExpGolomb.ofSigned_le (fitsSigned_iff.mpr fits)
  accepts := by
    rintro value _ ⟨fits, rfl⟩
    have fits := fitsSigned_iff.mpr fits
    rw [ExpGolomb.toSigned_ofSigned fits]
    exact if_pos fits
  refuses := by
    intro number inRange notCarried
    refine if_neg fun fits => ?_
    exact notCarried _ ⟨fitsSigned_iff.mp fits, ExpGolomb.ofSigned_toSigned inRange⟩

end Reader

/-! ## Readers of either kind -/

variable {σ : Type} [BitSource σ]

/-- A read ends with `result`, `count` bits behind where it started; a value leaves the latch empty
and a fault is latched. -/
structure Reader.Ends {α : Type} (reader : Reader σ) (read : ReadM σ α)
    (result : Except BitFault α) (count : Nat) : Prop where
  result_eq : (read reader).1 = result
  position_eq : (read reader).2.position = reader.position + count
  fault_eq : (read reader).2.fault = BitFault.ofResult result

theorem Reader.Ends.unique {α : Type} {reader : Reader σ} {read : ReadM σ α}
    {result other : Except BitFault α} {count otherCount : Nat}
    (ends : reader.Ends read result count) (others : reader.Ends read other otherCount) :
    result = other ∧ count = otherCount :=
  ⟨ends.result_eq.symm.trans others.result_eq,
    Nat.add_left_cancel (ends.position_eq.symm.trans others.position_eq)⟩

/-- Reading codes from the bits behind the position ends as those bits say, if `counter` shows how
long a suffix is behind a number of zeros, and in no other way. -/
structure Reader.ReadsCodes (counter : Nat → Nat) (decoded : List Bool) (reader : Reader σ) :
    Prop where
  position_le : reader.position ≤ decoded.length
  unsigned_iff : ∀ result count, reader.Ends readUnsigned result count ↔
    CodeEnding counter CarriesUnsigned (decoded.drop reader.position) result count
  signed_iff : ∀ result count, reader.Ends readSigned result count ↔
    CodeEnding counter CarriesSigned (decoded.drop reader.position) result count

/-- A counter of 32 bits shows all zeros in front of the first one, or still too many of them. -/
def Bits.ZerosCountable (bits : List Bool) : Prop :=
  ∀ zeros rest, bits = List.replicate zeros false ++ true :: rest →
    zeros < 4294967296 ∨ 32 < zeros % 4294967296

/-- Where the zeros can be counted, counting all of them gives the same endings. -/
theorem CodeEnding.countable_iff {α : Type} {Carries : α → Nat → Prop}
    (fewZeros : FewZeros Carries) {bits : List Bool} (countable : Bits.ZerosCountable bits)
    {result : Except BitFault α} {count : Nat} :
    CodeEnding ExpGolomb.wrappedCount Carries bits result count ↔
      CodeEnding id Carries bits result count := by
  rcases Bits.zeros_or_one bits with noOne | ⟨zeros, rest, rfl⟩
  · refine congr_iff fun zeros rest bits_eq => ?_
    exact absurd (bits_eq.symm.trans noOne) (Bits.one_ne_zeros _ _ _)
  · rcases countable zeros rest rfl with few | stillMany
    · refine congr_iff fun others last same => ?_
      obtain ⟨rfl, _⟩ := Bits.zeros_unique same
      exact ExpGolomb.wrappedCount_eq few
    · have shown : 32 < ExpGolomb.wrappedCount zeros := stillMany
      have tooMany : 32 < id zeros := Nat.lt_of_lt_of_le stillMany (Nat.mod_le _ _)
      rw [tooMany_iff fewZeros shown, tooMany_iff fewZeros tooMany]

/-- Codes are read with all zeros counted exactly where the zeros can be counted. -/
theorem Reader.ReadsCodes.id_iff {decoded : List Bool} {reader : Reader σ}
    (reads : reader.ReadsCodes ExpGolomb.wrappedCount decoded) :
    reader.ReadsCodes id decoded ↔ Bits.ZerosCountable (decoded.drop reader.position) := by
  constructor
  · intro readsAll zeros rest bits_eq
    by_cases few : zeros < 4294967296
    · exact Or.inl few
    · have tooMany : 32 < id zeros := Nat.lt_of_lt_of_le (by decide) (Nat.le_of_not_lt few)
      have refused := (readsAll.unsigned_iff (.error .codeTooLarge) (zeros + 1)).mpr (by
        rw [bits_eq]
        exact .tooManyZeros tooMany)
      have ending := (reads.unsigned_iff _ _).mp refused
      rw [bits_eq] at ending
      exact Or.inr ending.tooMany_of_refused
  · intro countable
    refine ⟨reads.position_le, fun result count => ?_, fun result count => ?_⟩
    · rw [reads.unsigned_iff, CodeEnding.countable_iff checksCarried_unsigned.fewZeros countable]
    · rw [reads.signed_iff, CodeEnding.countable_iff checksCarried_signed.fewZeros countable]

namespace Reader.StandsIn

variable {decoded : List Bool} {reader : Reader σ}

/-- On a reader without a fault a code ends as the bits behind the position say. -/
theorem ends_iff {α : Type} {Carries : α → Nat → Prop} {check : Nat → ReadM PlainSource α}
    (stands : reader.StandsIn decoded) (noFault : reader.fault = none)
    (checks : ChecksCarried Carries check) {read : ReadM σ α}
    (alike : ∀ {related : σ → PlainSource → Prop}, InStep False related →
      ∀ {first : Reader σ} {second : PlainReader}, ReadersRelated related first second →
        ReadAlike False related (read first) ((readCodeNumber >>= check) second))
    (result : Except BitFault α) (count : Nat) :
    reader.Ends read result count ↔
      CodeEnding ExpGolomb.wrappedCount Carries (decoded.drop reader.position) result count := by
  refine taken_iff_said Ends.unique ?_ (CodeEnding.exists_of_bits _ Carries _) result count
  intro result count ending
  have plain_eq := read_of_codeEnding checks ending reader.position
  rcases stands.ends alike with ⟨result_eq, position_eq, fault_eq⟩
  rw [noFault] at result_eq position_eq fault_eq
  exact ⟨result_eq.trans (congrArg (·.1) plain_eq),
    position_eq.trans (congrArg (·.2.position) plain_eq),
    fault_eq.trans (congrArg (·.2.fault) plain_eq)⟩

theorem readsCodes [FiniteSource σ] (stands : reader.StandsIn decoded)
    (noFault : reader.fault = none) : reader.ReadsCodes ExpGolomb.wrappedCount decoded where
  position_le := stands.position_le
  unsigned_iff := stands.ends_iff noFault checksCarried_unsigned fun inStep _ _ readers =>
    readUnsigned_alike inStep readers
  signed_iff := stands.ends_iff noFault checksCarried_signed fun inStep _ _ readers =>
    readSigned_alike inStep readers

end Reader.StandsIn

/-- A reader of either kind, wherever it has come to without a fault in a byte string, reads codes as
the remaining bits say with a counter of 32 bits: it gives a value exactly if they open with what is
read as its number, which it passes, and otherwise it fails with the fault and at the bit that
`CodeEnding` gives. Exactly where the zeros can be counted, it does so with all zeros counted, and
then a value is read exactly from its code: that of a number consists of as many zeros as its suffix
has bits, a one and the suffix. -/
theorem readers_readCodes (bytes : List UInt8) :
    (∀ reader, PlainReader.ReachedFrom bytes reader → reader.fault = none →
        reader.ReadsCodes ExpGolomb.wrappedCount (Bits.ofBytes bytes) ∧
          (reader.ReadsCodes id (Bits.ofBytes bytes) ↔
            Bits.ZerosCountable ((Bits.ofBytes bytes).drop reader.position))) ∧
      (∀ actions, (ReaderHistory.run bytes actions).reader.fault = none →
        let reader := (ReaderHistory.run bytes actions).reader
        let payload := Bits.ofBytes (Emulation.remove bytes)
        reader.ReadsCodes ExpGolomb.wrappedCount payload ∧
          (reader.ReadsCodes id payload ↔ Bits.ZerosCountable (payload.drop reader.position))) ∧
      (∀ number front, ExpGolomb.ReadAs id number front ↔ front = ExpGolomb.code number) ∧
      ∀ suffix, ExpGolomb.code (numberOf suffix) =
          List.replicate suffix.length false ++ true :: suffix ∧
        ExpGolomb.codeLength (numberOf suffix) = 2 * suffix.length + 1 := by
  refine ⟨fun reader reached noFault => ?_, fun actions noFault => ?_,
    fun number front => ExpGolomb.readAs_id_iff, fun suffix => ?_⟩
  · have reads := reached.standsIn.readsCodes noFault
    exact ⟨reads, reads.id_iff⟩
  · have reads := (EscapedReader.standsIn_run bytes actions).readsCodes noFault
    exact ⟨reads, reads.id_iff⟩
  · exact ⟨ExpGolomb.code_numberOf suffix, ExpGolomb.codeLength_numberOf suffix⟩

/-- Half a byte into a unit with two inserted bytes stands the code of `2 ^ 32`, with 32 zeros: it
carries the least signed value and no unsigned one. A plain byte of zeros has no code. -/
theorem readers_readCodes_limits :
    let reader := (ReaderHistory.run
      [0xf0, 0x00, 0x00, 0x03, 0x00, 0x08, 0x00, 0x00, 0x03, 0x00, 0x08]
      [.perform (.bits 4)]).reader
    let plain := ((ReaderRequest.perform .unsigned).answer (PlainReader.ofBytes [0x80, 0x00])).2
    (reader.fault = none ∧ plain.fault = none ∧ PlainReader.ReachedFrom [0x80, 0x00] plain) ∧
      reader.Ends Reader.readSigned (.ok (-2147483648)) 65 ∧
        reader.Ends Reader.readUnsigned (.error .codeTooLarge) 65 ∧
          plain.Ends Reader.readUnsigned (.error .unexpectedEnd) 15 := by
  intro reader plain
  have reached : PlainReader.ReachedFrom [0x80, 0x00] plain := .request .start _
  have reads := ((readers_readCodes _).2.1 _ (rfl : reader.fault = none)).1
  have plainReads := ((readers_readCodes _).1 _ reached rfl).1
  have readAs := ExpGolomb.readAs_code (by decide : 4294967296 ≤ ExpGolomb.unsignedLimit)
  refine ⟨⟨rfl, rfl, reached⟩, ?_, ?_, ?_⟩
  · refine (reads.signed_iff _ _).mpr ?_
    exact .value readAs ⟨⟨by decide, by decide⟩, by decide⟩
  · refine (reads.unsigned_iff _ _).mpr ?_
    refine .tooLarge readAs (by decide) ?_
    rintro _ ⟨rfl, inRange⟩
    revert inRange
    decide
  · exact (plainReads.unsigned_iff _ _).mpr (.noOne 15)

/-! ## Where the counter starts again -/

/-- Zeros that bring the counter back to where it was are passed as if the one stood alone. -/
theorem CodeEnding.value_zero {zeros : Nat} (restarts : ExpGolomb.wrappedCount zeros = 0)
    (rest : List Bool) :
    CodeEnding ExpGolomb.wrappedCount CarriesUnsigned
      (List.replicate zeros false ++ true :: rest) (.ok 0) (zeros + 1) := by
  have readAs : ExpGolomb.ReadAs ExpGolomb.wrappedCount (numberOf [])
      (List.replicate zeros false ++ [true]) := .intro restarts.symm
  have carried : CarriesUnsigned 0 (numberOf []) := ⟨rfl, Nat.zero_le _⟩
  have ending := @CodeEnding.value _ _ _ _ rest _ _ readAs carried
  rwa [List.append_assoc, List.length_append, List.length_replicate] at ending

theorem Bits.ofBytes_zeros (count : Nat) :
    Bits.ofBytes (List.replicate count 0 ++ [0x80]) =
      List.replicate (count * 8) false ++ true :: List.replicate 7 false := by
  have zeros_eq : Bits.ofByte 0 = List.replicate 8 false := by decide
  rw [Bits.ofBytes_append, Bits.ofBytes, List.flatMap_replicate, zeros_eq,
    List.flatten_replicate_replicate]
  rfl

/-- In bytes of zeros that bring the counter back to where it was, and a byte that opens with a one,
readers of either kind pass the zeros and the one as the code of zero. -/
theorem readUnsigned_restarts {count zeros : Nat} (zeros_eq : count * 8 = zeros)
    (restarts : ExpGolomb.wrappedCount zeros = 0) :
    (PlainReader.ofBytes (List.replicate count 0 ++ [0x80])).Ends Reader.readUnsigned
        (.ok 0) (zeros + 1) ∧
      (EscapedReader.ofUnit (List.replicate count 0 ++ [0x80])).Ends Reader.readUnsigned
        (.ok 0) (zeros + 1) := by
  have ending := CodeEnding.value_zero restarts (List.replicate 7 false)
  have payload_eq : Emulation.remove (List.replicate count 0 ++ [0x80]) =
      List.replicate count 0 ++ [0x80] := by
    apply Emulation.remove_eq_self
    simp [Emulation.preventionByte, List.mem_replicate]
  rw [← zeros_eq, ← Bits.ofBytes_zeros] at ending
  rw [← zeros_eq]
  have reached : PlainReader.ReachedFrom (List.replicate count 0 ++ [0x80]) _ := .start
  have reads := reached.standsIn.readsCodes rfl
  have escapedReads :=
    (EscapedReader.standsIn_run (List.replicate count 0 ++ [0x80]) []).readsCodes rfl
  rw [payload_eq] at escapedReads
  exact ⟨(reads.unsigned_iff _ _).mpr ending, (escapedReads.unsigned_iff _ _).mpr ending⟩

/-- Behind `2 ^ 32` zeros both readers take a lone one for the code of zero. All zeros counted, the
code is too large for any field, and must be refused behind its one. -/
theorem readUnsigned_wraps :
    (PlainReader.ofBytes (List.replicate 536870912 0 ++ [0x80])).Ends Reader.readUnsigned
        (.ok 0) 4294967297 ∧
      (EscapedReader.ofUnit (List.replicate 536870912 0 ++ [0x80])).Ends Reader.readUnsigned
        (.ok 0) 4294967297 ∧
      CodeEnding id CarriesUnsigned (Bits.ofBytes (List.replicate 536870912 0 ++ [0x80]))
        (.error .codeTooLarge) 4294967297 ∧
      ¬ (PlainReader.ofBytes (List.replicate 536870912 0 ++ [0x80])).ReadsCodes id
        (Bits.ofBytes (List.replicate 536870912 0 ++ [0x80])) := by
  have zeros_eq : 536870912 * 8 = 4294967296 := by decide
  have tooMany : 32 < id 4294967296 := by decide
  have ends := readUnsigned_restarts zeros_eq (Nat.mod_self 4294967296)
  have ending : CodeEnding id CarriesUnsigned
      (Bits.ofBytes (List.replicate 536870912 0 ++ [0x80])) (.error .codeTooLarge) 4294967297 := by
    rw [Bits.ofBytes_zeros, zeros_eq]
    exact .tooManyZeros tooMany
  refine ⟨ends.1, ends.2, ending, fun readsAll => ?_⟩
  have refused := (readsAll.unsigned_iff _ _).mpr ending
  cases (ends.1.unique refused).1

end CodedVideo
