import CodedVideo.Bits.Plain

/-!
# Reads, part by part

A read that is composed of others runs them one after another, and a read that succeeds has taken
its bits from the source. The bound on the bits that are left therefore never grows, and each bit
that is read lowers it: that is why the loops of a reader may be bounded by it.
-/

namespace CodedVideo

/-! ## Bounds of sources -/

/-- A source whose bound on the bits that are left falls with every bit. -/
class FiniteSource (σ : Type) [BitSource σ] : Prop where
  bitsLeft_lt : ∀ {source rest : σ} {bit : Bool},
    BitSource.next source = some (bit, rest) → BitSource.bitsLeft rest < BitSource.bitsLeft source

instance : FiniteSource PlainSource where
  bitsLeft_lt := by
    rintro ⟨position, _ | ⟨bit, unread⟩⟩ rest first next_eq
    · simp [BitSource.next, PlainSource.next] at next_eq
    · simp only [BitSource.next, PlainSource.next, Option.some.injEq, Prod.mk.injEq] at next_eq
      rcases next_eq with ⟨_, rfl⟩
      exact Nat.lt_succ_self unread.length

variable {σ : Type} [BitSource σ]

namespace BitSource

/-- A source without bits left is at its end. -/
theorem next_eq_none_of_bitsLeft_eq_zero [FiniteSource σ] {source : σ}
    (nothingLeft : bitsLeft source = 0) : next source = none := by
  cases next_eq : next source with
  | none => rfl
  | some step =>
      have fewer := FiniteSource.bitsLeft_lt next_eq
      rw [nothingLeft] at fewer
      exact absurd fewer (Nat.not_lt_zero _)

/-- The first of several bits is the next one, and the others are taken behind it. -/
theorem take_succ_eq_some {count : Nat} {source last : σ} {bits : List Bool}
    (take_eq : take (count + 1) source = some (bits, last)) :
    ∃ bit rest others, next source = some (bit, rest) ∧ take count rest = some (others, last) ∧
      bits = bit :: others := by
  cases next_eq : next source with
  | none =>
      simp only [take, next_eq] at take_eq
      contradiction
  | some step =>
      rcases rest_eq : take count step.2 with _ | ⟨others, behind⟩
      · simp only [take, next_eq, rest_eq] at take_eq
        contradiction
      · simp only [take, next_eq, rest_eq] at take_eq
        cases take_eq
        exact ⟨step.1, step.2, others, rfl, rest_eq, rfl⟩

/-- As many bits are taken as are asked for. -/
theorem length_of_take {count : Nat} {source last : σ} {bits : List Bool}
    (take_eq : take count source = some (bits, last)) : bits.length = count := by
  induction count generalizing source bits with
  | zero =>
      cases take_eq
      rfl
  | succ count inductionHypothesis =>
      obtain ⟨bit, rest, others, _, rest_eq, rfl⟩ := take_succ_eq_some take_eq
      exact congrArg Nat.succ (inductionHypothesis rest_eq)

/-- Each bit that is taken lowers the bound on the bits that are left. -/
theorem bitsLeft_of_take [FiniteSource σ] {count : Nat} {source last : σ} {bits : List Bool}
    (take_eq : take count source = some (bits, last)) :
    count + bitsLeft last ≤ bitsLeft source := by
  induction count generalizing source bits with
  | zero =>
      cases take_eq
      exact Nat.le_of_eq (Nat.zero_add _)
  | succ count inductionHypothesis =>
      obtain ⟨bit, rest, others, next_eq, rest_eq, _⟩ := take_succ_eq_some take_eq
      have fewer := FiniteSource.bitsLeft_lt next_eq
      have behind := inductionHypothesis rest_eq
      omega

end BitSource

/-! ## Sequences of reads -/

omit [BitSource σ] in
/-- What follows a run, on the reader that it leaves: `next` goes on from a value, and an error is
passed on. -/
def resume {ε δ α β : Type} (next : α → Reader σ → Except δ β × Reader σ)
    (passOn : ε → Reader σ → δ) : Except ε α × Reader σ → Except δ β × Reader σ
  | (.ok value, rest) => next value rest
  | (.error error, stopped) => (.error (passOn error stopped), stopped)

namespace Reader

omit [BitSource σ] in
/-- A sequence of reads runs its second part on the value and the reader that the first one
leaves. -/
theorem bind_apply {α β : Type} (part : ReadM σ α) (next : α → ReadM σ β) (reader : Reader σ) :
    (part >>= next) reader = resume next (fun fault _ => fault) (part reader) := by
  simp only [bind, ExceptT.bind, ExceptT.mk, StateT.bind, ExceptT.bindCont]
  cases part reader with
  | mk result rest => cases result <;> rfl

omit [BitSource σ] in
/-- A sequence of reads that succeeds consists of two that do. -/
theorem bind_eq_ok {α β : Type} {part : ReadM σ α} {next : α → ReadM σ β} {reader last : Reader σ}
    {result : β} (succeeded : (part >>= next) reader = (.ok result, last)) :
    ∃ value rest, part reader = (.ok value, rest) ∧ next value rest = (.ok result, last) := by
  rw [bind_apply] at succeeded
  rcases part_eq : part reader with ⟨fault | value, rest⟩
  · rw [part_eq] at succeeded
    cases succeeded
  · rw [part_eq] at succeeded
    exact ⟨value, rest, rfl, succeeded⟩

/-- The bits that are left bound the zeros that open a code. -/
theorem readCodeNumber_apply (reader : Reader σ) :
    readCodeNumber reader =
      (readZeroRun (reader.bitsLeft + 1) 0 >>= fun zeros =>
        if 32 < zeros then fail .codeTooLarge
        else readBits zeros.toNat >>= fun suffix => pure (1 <<< zeros.toNat - 1 + suffix))
        reader :=
  rfl

/-- Behind the one that opens the trailing bits, the bits that are left bound the zeros. -/
theorem readTrailingBits_apply (reader : Reader σ) :
    readTrailingBits reader =
      (readBits 1 >>= fun bit =>
        if bit == 1 then fun rest => readZerosToEnd rest.bitsLeft rest
        else fail .invalidTrailingBits) reader := by
  simp only [readTrailingBits, bind_apply]
  rcases readBits 1 reader with ⟨fault | bit, rest⟩
  · rfl
  · by_cases isOne : bit = 1
    · simp only [isOne]
      rfl
    · simp [resume, isOne]

/-! ## Reads that succeed -/

section

variable {reader last : Reader σ}

/-- A reader that reads a number has no fault. -/
theorem fault_eq_none_of_readBits {count value : Nat}
    (read : readBits count reader = (.ok value, last)) : reader.fault = none := by
  cases fault : reader.fault with
  | some latched =>
      simp only [readBits, fault] at read
      cases read
  | none => rfl

/-- A number that is read is written by the next bits of the source. -/
theorem take_of_readBits {count value : Nat} (read : readBits count reader = (.ok value, last)) :
    ∃ bits, BitSource.take count reader.source = some (bits, last.source) ∧
      value = Bits.toNat bits := by
  simp only [readBits] at read
  cases fault : reader.fault with
  | some latched =>
      simp only [fault] at read
      cases read
  | none =>
      simp only [fault] at read
      split at read
      · cases read
      · split at read
        · next bits rest take_eq =>
          cases read
          exact ⟨bits, take_eq, rfl⟩
        · cases read

/-- A bit that is read is the next one of the source. -/
theorem next_of_readBits_one {value : Nat} (read : readBits 1 reader = (.ok value, last)) :
    ∃ bit, BitSource.next reader.source = some (bit, last.source) ∧ value = bit.toNat := by
  obtain ⟨bits, take_eq, value_eq⟩ := take_of_readBits read
  obtain ⟨bit, rest, others, next_eq, rest_eq, rfl⟩ := BitSource.take_succ_eq_some take_eq
  cases rest_eq
  exists bit
  constructor
  · exact next_eq
  · rw [value_eq]
    cases bit <;> rfl

/-- A flag that is read is the next bit of the source. -/
theorem next_of_readFlag {value : Bool} (read : readFlag reader = (.ok value, last)) :
    BitSource.next reader.source = some (value, last.source) := by
  obtain ⟨number, rest, bitRead, flagRead⟩ := bind_eq_ok read
  obtain ⟨bit, next_eq, number_eq⟩ := next_of_readBits_one bitRead
  rw [number_eq] at flagRead
  cases flagRead
  rw [next_eq]
  cases bit <;> rfl

/-! ## Bits left -/

variable [FiniteSource σ]

/-- Reading bits leaves so many fewer. -/
theorem bitsLeft_of_readBits {count value : Nat}
    (read : readBits count reader = (.ok value, last)) :
    count + last.bitsLeft ≤ reader.bitsLeft := by
  obtain ⟨bits, take_eq, _⟩ := take_of_readBits read
  exact BitSource.bitsLeft_of_take take_eq

/-- Reading bits leaves no more of them. -/
theorem bitsLeft_le_of_readBits {count value : Nat}
    (read : readBits count reader = (.ok value, last)) : last.bitsLeft ≤ reader.bitsLeft :=
  Nat.le_of_add_left_le (bitsLeft_of_readBits read)

/-- Reading a bit leaves fewer bits. -/
theorem bitsLeft_lt_of_readBits_one {value : Nat} (read : readBits 1 reader = (.ok value, last)) :
    last.bitsLeft < reader.bitsLeft := by
  obtain ⟨bit, next_eq, _⟩ := next_of_readBits_one read
  exact FiniteSource.bitsLeft_lt next_eq

/-- Counting the zeros in front of a one reads at least that one. -/
theorem bitsLeft_lt_of_readZeroRun {bound : Nat} {zeros count : UInt32}
    (read : readZeroRun bound zeros reader = (.ok count, last)) :
    last.bitsLeft < reader.bitsLeft := by
  induction bound generalizing zeros reader with
  | zero =>
      simp only [readZeroRun, fail] at read
      cases read
  | succ bound inductionHypothesis =>
      obtain ⟨bit, rest, bitRead, restRead⟩ := bind_eq_ok read
      have fewer := bitsLeft_lt_of_readBits_one bitRead
      split at restRead
      · exact Nat.lt_trans (inductionHypothesis restRead) fewer
      · cases restRead
        exact fewer

/-- A code number takes at least one bit. -/
theorem bitsLeft_lt_of_readCodeNumber {number : Nat}
    (read : readCodeNumber reader = (.ok number, last)) : last.bitsLeft < reader.bitsLeft := by
  rw [readCodeNumber_apply] at read
  obtain ⟨zeros, rest, zerosRead, suffixRead⟩ := bind_eq_ok read
  have fewer := bitsLeft_lt_of_readZeroRun zerosRead
  split at suffixRead
  · cases suffixRead
  · obtain ⟨suffix, behindSuffix, bitsRead, numberRead⟩ := bind_eq_ok suffixRead
    have noMore := bitsLeft_le_of_readBits bitsRead
    cases numberRead
    exact Nat.lt_of_le_of_lt noMore fewer

/-- A signed code takes at least one bit. -/
theorem bitsLeft_lt_of_readSigned {value : Int}
    (read : readSigned reader = (.ok value, last)) : last.bitsLeft < reader.bitsLeft := by
  obtain ⟨number, rest, codeRead, valueRead⟩ := bind_eq_ok read
  have fewer := bitsLeft_lt_of_readCodeNumber codeRead
  dsimp only at valueRead
  split at valueRead
  · cases valueRead
    exact fewer
  · cases valueRead

/-- An unsigned code takes at least one bit. -/
theorem bitsLeft_lt_of_readUnsigned {value : Nat}
    (read : readUnsigned reader = (.ok value, last)) : last.bitsLeft < reader.bitsLeft := by
  obtain ⟨number, rest, codeRead, valueRead⟩ := bind_eq_ok read
  have fewer := bitsLeft_lt_of_readCodeNumber codeRead
  split at valueRead
  · cases valueRead
    exact fewer
  · cases valueRead

end

/-! ## The end -/

/-- A reader without bits left is at its end. -/
theorem atEnd_of_bitsLeft_eq_zero [FiniteSource σ] {reader : Reader σ}
    (nothingLeft : reader.bitsLeft = 0) : reader.atEnd = true := by
  simp only [atEnd, BitSource.atEnd, BitSource.next_eq_none_of_bitsLeft_eq_zero nothingLeft,
    Option.isNone_none]

/-- At the end no zeros are left to read. -/
theorem readZerosToEnd_of_atEnd {bound : Nat} {reader : Reader σ} (atEnd : reader.atEnd = true) :
    readZerosToEnd bound reader = (.ok (), reader) := by
  cases bound with
  | zero => rfl
  | succ bound =>
      change (if reader.atEnd = true then (pure () : ReadM σ Unit) else _) reader = _
      rw [if_pos atEnd]
      rfl

/-- In front of the end one more bit is read, which is to be a zero. -/
theorem readZerosToEnd_succ {bound : Nat} {reader : Reader σ} (notAtEnd : ¬ reader.atEnd = true) :
    readZerosToEnd (bound + 1) reader =
      (readBits 1 >>= fun bit =>
        if bit == 0 then readZerosToEnd bound else fail .invalidTrailingBits) reader := by
  change (if reader.atEnd = true then (pure () : ReadM σ Unit) else _) reader = _
  rw [if_neg notAtEnd]

end Reader

end CodedVideo
