import CodedVideo.Proofs.Bits.Reads

/-!
# Sources in step

Two sources are in step when they hand out the same bits at the same positions. Readers of such
sources cannot be told apart: every operation gives the same result on both and leaves them in step
again. That holds although readers bound their loops by the number of bits left, which the two
sources may estimate differently.

The first source may also be allowed to end early. Then an operation either ends alike on both, or
it fails on the first source for want of data.
-/

namespace CodedVideo

variable {σ τ : Type} [BitSource σ] [BitSource τ]

/-- Related sources hand out the same bits at the same positions. Under `early` the first one may
end where the second one goes on. -/
structure InStep (early : Prop) (related : σ → τ → Prop) : Prop where
  position_eq : ∀ {first : σ} {second : τ}, related first second →
    BitSource.position first = BitSource.position second
  next_related : ∀ {first : σ} {second : τ}, related first second →
    (BitSource.next first = none ∧ (early ∨ BitSource.next second = none)) ∨
      ∃ bit firstRest secondRest,
        BitSource.next first = some (bit, firstRest) ∧
          BitSource.next second = some (bit, secondRest) ∧ related firstRest secondRest

/-- Two readers have related sources and the same fault. -/
structure ReadersRelated (related : σ → τ → Prop) (first : Reader σ) (second : Reader τ) :
    Prop where
  sources : related first.source second.source
  fault_eq : first.fault = second.fault

/-- Two runs have the same result and leave related readers. Under `early` the first run may instead
fail for want of data, which is what `isEnd` says of an error. -/
def EndAlike {ε α : Type} (early : Prop) (isEnd : ε → Prop) (related : σ → τ → Prop)
    (first : Except ε α × Reader σ) (second : Except ε α × Reader τ) : Prop :=
  (first.1 = second.1 ∧ ReadersRelated related first.2 second.2) ∨
    (early ∧ ∃ error, first.1 = .error error ∧ isEnd error)

omit [BitSource σ] [BitSource τ] in
/-- Runs that end alike still do with what follows them, if both go on from a value alike and pass
on an error alike, so that a lack of data stays one. -/
theorem EndAlike.resume {ε δ α β : Type} {early : Prop} {isEnd : ε → Prop} {isLaterEnd : δ → Prop}
    {related : σ → τ → Prop} {first : Except ε α × Reader σ} {second : Except ε α × Reader τ}
    {next : α → Reader σ → Except δ β × Reader σ} {otherNext : α → Reader τ → Except δ β × Reader τ}
    {passOn : ε → Reader σ → δ} {otherPassOn : ε → Reader τ → δ}
    (parts : EndAlike early isEnd related first second)
    (nexts : ∀ value firstRest secondRest, first = (.ok value, firstRest) →
      second = (.ok value, secondRest) → ReadersRelated related firstRest secondRest →
      EndAlike early isLaterEnd related (next value firstRest) (otherNext value secondRest))
    (errors : ∀ error firstRest secondRest, ReadersRelated related firstRest secondRest →
      passOn error firstRest = otherPassOn error secondRest)
    (ends : ∀ error rest, isEnd error → isLaterEnd (passOn error rest)) :
    EndAlike early isLaterEnd related (CodedVideo.resume next passOn first)
      (CodedVideo.resume otherNext otherPassOn second) := by
  rcases first with ⟨firstResult, firstRest⟩
  rcases second with ⟨secondResult, secondRest⟩
  rcases parts with ⟨result_eq, rests⟩ | ⟨isEarly, error, failed, isEnd⟩
  · simp only at result_eq rests
    subst result_eq
    cases firstResult with
    | ok value => exact nexts value firstRest secondRest rfl rfl rests
    | error error =>
        exact Or.inl ⟨congrArg Except.error (errors error firstRest secondRest rests), rests⟩
  · simp only at failed
    subst failed
    exact Or.inr ⟨isEarly, passOn error firstRest, rfl, ends error firstRest isEnd⟩

omit [BitSource σ] [BitSource τ] in
/-- Where the first run may not end early, both give the same result and leave related readers. -/
theorem EndAlike.together {ε α : Type} {isEnd : ε → Prop} {related : σ → τ → Prop}
    {first : Except ε α × Reader σ} {second : Except ε α × Reader τ}
    (alike : EndAlike False isEnd related first second) :
    first.1 = second.1 ∧ ReadersRelated related first.2 second.2 :=
  alike.resolve_right fun impossible => impossible.1

/-- Two reads end alike. -/
def ReadAlike {α : Type} (early : Prop) (related : σ → τ → Prop)
    (first : Except BitFault α × Reader σ) (second : Except BitFault α × Reader τ) : Prop :=
  EndAlike early (· = .unexpectedEnd) related first second

/-! ## Steps of a source -/

namespace BitSource

/-- Related sources give the same bits, as many as one asks for. -/
theorem take_related {early : Prop} {related : σ → τ → Prop} (inStep : InStep early related)
    (count : Nat) {first : σ} {second : τ} (sources : related first second) :
    (take count first = none ∧ (early ∨ take count second = none)) ∨
      ∃ bits firstRest secondRest,
        take count first = some (bits, firstRest) ∧
          take count second = some (bits, secondRest) ∧ related firstRest secondRest := by
  induction count generalizing first second with
  | zero => exact Or.inr ⟨[], first, second, rfl, rfl, sources⟩
  | succ count inductionHypothesis =>
      simp only [take]
      rcases inStep.next_related sources with ⟨firstEnd, secondEnd⟩ |
        ⟨bit, firstRest, secondRest, firstNext, secondNext, rests⟩
      · rw [firstEnd]
        refine Or.inl ⟨rfl, secondEnd.imp_right fun atEnd => ?_⟩
        rw [atEnd]
      · rw [firstNext, secondNext]
        rcases inductionHypothesis rests with ⟨firstShort, secondShort⟩ |
          ⟨bits, firstLast, secondLast, firstTake, secondTake, lasts⟩
        · simp only [firstShort]
          exact Or.inl ⟨trivial, secondShort.imp_right fun short => by simp only [short]⟩
        · simp only [firstTake, secondTake]
          exact Or.inr ⟨bit :: bits, firstLast, secondLast, rfl, rfl, lasts⟩

/-- Whether a one follows does not depend on the bound, as long as it covers the bits that are
left. -/
theorem hasOneWithin_related [FiniteSource σ] [FiniteSource τ] {related : σ → τ → Prop}
    (inStep : InStep False related) {firstBound secondBound : Nat} {first : σ} {second : τ}
    (sources : related first second) (firstCovered : bitsLeft first ≤ firstBound)
    (secondCovered : bitsLeft second ≤ secondBound) :
    hasOneWithin firstBound first = hasOneWithin secondBound second := by
  induction firstBound generalizing secondBound first second with
  | zero =>
      have firstEnd := next_eq_none_of_bitsLeft_eq_zero (Nat.le_zero.mp firstCovered)
      rcases inStep.next_related sources with ⟨_, secondEnd⟩ | ⟨bit, firstRest, _, firstNext, _⟩
      · cases secondBound <;> simp_all [hasOneWithin]
      · rw [firstEnd] at firstNext
        contradiction
  | succ firstBound inductionHypothesis =>
      rcases inStep.next_related sources with ⟨firstEnd, secondEnd⟩ |
        ⟨bit, firstRest, secondRest, firstNext, secondNext, rests⟩
      · cases secondBound <;> simp_all [hasOneWithin]
      · have firstFewer := FiniteSource.bitsLeft_lt firstNext
        have secondFewer := FiniteSource.bitsLeft_lt secondNext
        cases secondBound with
        | zero => omega
        | succ secondBound =>
            simp only [hasOneWithin, firstNext, secondNext]
            cases bit with
            | true => rfl
            | false => exact inductionHypothesis rests (by omega) (by omega)

/-- Related sources hold data in front of the trailing bits alike. -/
theorem hasMoreData_related [FiniteSource σ] [FiniteSource τ] {related : σ → τ → Prop}
    (inStep : InStep False related) {first : σ} {second : τ} (sources : related first second) :
    hasMoreData first = hasMoreData second := by
  simp only [hasMoreData]
  rcases inStep.next_related sources with ⟨firstEnd, secondEnd⟩ |
    ⟨bit, firstRest, secondRest, firstNext, secondNext, rests⟩
  · simp_all
  · rw [firstNext, secondNext]
    cases bit with
    | false => rfl
    | true => exact hasOneWithin_related inStep rests (Nat.le_refl _) (Nat.le_refl _)

/-- Related sources are at their ends together. -/
theorem atEnd_related {related : σ → τ → Prop} (inStep : InStep False related) {first : σ}
    {second : τ} (sources : related first second) : atEnd first = atEnd second := by
  simp only [atEnd]
  rcases inStep.next_related sources with ⟨firstEnd, secondEnd⟩ |
    ⟨bit, firstRest, secondRest, firstNext, secondNext, _⟩
  · simp_all
  · simp [firstNext, secondNext]

end BitSource

/-! ## Composing reads -/

namespace Reader

section

variable {early : Prop} {related : σ → τ → Prop} {first : Reader σ} {second : Reader τ}

omit [BitSource σ] [BitSource τ] in
/-- Ending with a value changes nothing. -/
theorem pure_alike {α : Type} (readers : ReadersRelated related first second) (value : α) :
    ReadAlike early related ((pure value : ReadM σ α) first) ((pure value : ReadM τ α) second) :=
  Or.inl ⟨rfl, readers⟩

omit [BitSource σ] [BitSource τ] in
/-- Sequences end alike if their first parts do, and so do their second parts on what the first ones
leave. -/
theorem bind_alike {α β : Type} {part : ReadM σ α} {otherPart : ReadM τ α}
    {next : α → ReadM σ β} {otherNext : α → ReadM τ β}
    (parts : ReadAlike early related (part first) (otherPart second))
    (nexts : ∀ value firstRest secondRest, part first = (.ok value, firstRest) →
      otherPart second = (.ok value, secondRest) → ReadersRelated related firstRest secondRest →
      ReadAlike early related (next value firstRest) (otherNext value secondRest)) :
    ReadAlike early related ((part >>= next) first) ((otherPart >>= otherNext) second) := by
  rw [bind_apply, bind_apply]
  apply EndAlike.resume parts
  · exact nexts
  · intro fault firstRest secondRest rests
    rfl
  · intro fault rest isEnd
    exact isEnd

omit [BitSource σ] [BitSource τ] in
/-- Reads that end alike still do when a function is applied to their values. -/
theorem map_alike {α β : Type} {read : ReadM σ α} {otherRead : ReadM τ α}
    (alike : ReadAlike early related (read first) (otherRead second)) (function : α → β) :
    ReadAlike early related ((function <$> read) first) ((function <$> otherRead) second) := by
  apply bind_alike alike
  intro value firstRest secondRest _ _ rests
  exact pure_alike rests (function value)

omit [BitSource σ] [BitSource τ] in
/-- Both readers latch the same fault. -/
theorem fail_alike {α : Type} (readers : ReadersRelated related first second) (fault : BitFault) :
    ReadAlike early related ((fail fault : ReadM σ α) first) ((fail fault : ReadM τ α) second) := by
  left
  constructor
  · simp only [fail, readers.fault_eq]
  · constructor
    · exact readers.sources
    · simp only [fail, readers.fault_eq]

omit [BitSource σ] [BitSource τ] in
/-- Forgetting the fault keeps readers related. -/
theorem clearFault_related (readers : ReadersRelated related first second) :
    ReadersRelated related first.clearFault second.clearFault :=
  ⟨readers.sources, rfl⟩

/-! ## Reads of fixed width -/

variable (inStep : InStep early related)

include inStep

/-- Related readers are at the same position. -/
theorem position_related (readers : ReadersRelated related first second) :
    first.position = second.position :=
  inStep.position_eq readers.sources

/-- Reads of a fixed number of bits end alike. -/
theorem readBits_alike (readers : ReadersRelated related first second) (count : Nat) :
    ReadAlike early related (readBits count first) (readBits count second) := by
  simp only [readBits, ← readers.fault_eq]
  cases fault : first.fault with
  | some latched => exact Or.inl ⟨rfl, readers⟩
  | none =>
      simp only
      split
      · exact fail_alike readers (.invalidBitCount count)
      · rcases BitSource.take_related inStep count readers.sources with ⟨firstShort, secondShort⟩ |
          ⟨bits, firstRest, secondRest, firstTake, secondTake, rests⟩
        · simp only [firstShort]
          rcases secondShort with isEarly | secondShort
          · exact Or.inr ⟨isEarly, .unexpectedEnd, by simp only [fail, fault]; rfl, rfl⟩
          · simp only [secondShort]
            exact fail_alike readers .unexpectedEnd
        · simp only [firstTake, secondTake]
          exact Or.inl ⟨rfl, rests, rfl⟩

/-- Reads of up to 64 bits end alike. -/
theorem readWideBits_alike (readers : ReadersRelated related first second) (count : Nat) :
    ReadAlike early related (readWideBits count first) (readWideBits count second) := by
  simp only [readWideBits]
  split
  · exact fail_alike readers (.invalidBitCount count)
  · split
    · exact readBits_alike inStep readers count
    · apply bind_alike (readBits_alike inStep readers (count - 32))
      intro high firstRest secondRest _ _ rests
      apply bind_alike (readBits_alike inStep rests 32)
      intro low firstLast secondLast _ _ lasts
      exact pure_alike lasts (high <<< 32 + low)

/-- Reads of a flag end alike. -/
theorem readFlag_alike (readers : ReadersRelated related first second) :
    ReadAlike early related (readFlag first) (readFlag second) := by
  apply bind_alike (readBits_alike inStep readers 1)
  intro bit firstRest secondRest _ _ rests
  exact pure_alike rests (bit == 1)

/-! ## Skipping -/

/-- Skipping whole words ends alike. -/
theorem skipWords_alike (steps : Nat) (readers : ReadersRelated related first second) :
    ReadAlike early related (skipWords steps first) (skipWords steps second) := by
  induction steps generalizing first second with
  | zero => exact pure_alike readers ()
  | succ steps inductionHypothesis =>
      apply bind_alike (readBits_alike inStep readers 32)
      intro word firstRest secondRest _ _ rests
      exact inductionHypothesis rests

/-- Skipping ends alike. -/
theorem skip_alike (readers : ReadersRelated related first second) (count : Nat) :
    ReadAlike early related (skip count first) (skip count second) := by
  apply bind_alike (skipWords_alike inStep (count / 32) readers)
  intro _ firstRest secondRest _ _ rests
  split
  · apply bind_alike (readBits_alike inStep rests (count % 32))
    intro _ firstLast secondLast _ _ lasts
    exact pure_alike lasts ()
  · exact pure_alike rests ()

/-- Moving to the next byte boundary ends alike. -/
theorem align_alike (readers : ReadersRelated related first second) :
    ReadAlike early related (align first) (align second) := by
  simp only [align, position_related inStep readers]
  exact skip_alike inStep readers (Bits.toBoundary second.position)

/-! ## Exp-Golomb codes -/

variable [FiniteSource σ] [FiniteSource τ]

/-- The zeros in front of a one are counted alike under any two bounds that cover the bits that are
left. -/
theorem readZeroRun_alike {firstBound secondBound : Nat}
    (readers : ReadersRelated related first second) (firstCovered : first.bitsLeft < firstBound)
    (secondCovered : second.bitsLeft < secondBound) (zeros : UInt32) :
    ReadAlike early related (readZeroRun firstBound zeros first)
      (readZeroRun secondBound zeros second) := by
  induction firstBound generalizing secondBound first second zeros with
  | zero => exact absurd firstCovered (Nat.not_lt_zero _)
  | succ firstBound inductionHypothesis =>
      cases secondBound with
      | zero => exact absurd secondCovered (Nat.not_lt_zero _)
      | succ secondBound =>
          apply bind_alike (readBits_alike inStep readers 1)
          intro bit firstRest secondRest firstRead secondRead rests
          have firstFewer := bitsLeft_lt_of_readBits_one firstRead
          have secondFewer := bitsLeft_lt_of_readBits_one secondRead
          split
          · exact inductionHypothesis rests (by omega) (by omega) (zeros + 1)
          · exact pure_alike rests zeros

/-- Code numbers are read alike. -/
theorem readCodeNumber_alike (readers : ReadersRelated related first second) :
    ReadAlike early related (readCodeNumber first) (readCodeNumber second) := by
  rw [readCodeNumber_apply, readCodeNumber_apply]
  apply bind_alike (readZeroRun_alike inStep readers (Nat.lt_succ_self _) (Nat.lt_succ_self _) 0)
  intro zeros firstRest secondRest _ _ rests
  split
  · exact fail_alike rests .codeTooLarge
  · apply bind_alike (readBits_alike inStep rests zeros.toNat)
    intro suffix firstLast secondLast _ _ lasts
    exact pure_alike lasts (1 <<< zeros.toNat - 1 + suffix)

/-- Unsigned codes are read alike. -/
theorem readUnsigned_alike (readers : ReadersRelated related first second) :
    ReadAlike early related (readUnsigned first) (readUnsigned second) := by
  apply bind_alike (readCodeNumber_alike inStep readers)
  intro number firstRest secondRest _ _ rests
  split
  · exact pure_alike rests number
  · exact fail_alike rests .codeTooLarge

/-- Signed codes are read alike. -/
theorem readSigned_alike (readers : ReadersRelated related first second) :
    ReadAlike early related (readSigned first) (readSigned second) := by
  apply bind_alike (readCodeNumber_alike inStep readers)
  intro number firstRest secondRest _ _ rests
  by_cases fits : ExpGolomb.fitsSigned (ExpGolomb.toSigned number) = true
  · rw [if_pos fits, if_pos fits]
    exact pure_alike rests (ExpGolomb.toSigned number)
  · rw [if_neg fits, if_neg fits]
    exact fail_alike rests .codeTooLarge

end

/-! ## The end of the payload -/

section

variable [FiniteSource σ] [FiniteSource τ] {related : σ → τ → Prop} {first : Reader σ}
  {second : Reader τ} (inStep : InStep False related)

include inStep

/-- Related readers hold data in front of the trailing bits alike. -/
theorem hasMoreData_related (readers : ReadersRelated related first second) :
    first.hasMoreData = second.hasMoreData := by
  simp only [hasMoreData, readers.fault_eq, BitSource.hasMoreData_related inStep readers.sources]

omit [FiniteSource σ] [FiniteSource τ] in
/-- Related readers are at their ends together. -/
theorem atEnd_related (readers : ReadersRelated related first second) :
    first.atEnd = second.atEnd :=
  BitSource.atEnd_related inStep readers.sources

/-- The zeros up to the end are read alike under any two bounds that cover the bits that are
left. -/
theorem readZerosToEnd_alike {firstBound secondBound : Nat}
    (readers : ReadersRelated related first second) (firstCovered : first.bitsLeft ≤ firstBound)
    (secondCovered : second.bitsLeft ≤ secondBound) :
    ReadAlike False related (readZerosToEnd firstBound first)
      (readZerosToEnd secondBound second) := by
  induction firstBound generalizing secondBound first second with
  | zero =>
      have firstAtEnd : first.atEnd = true :=
        atEnd_of_bitsLeft_eq_zero (Nat.le_zero.mp firstCovered)
      have secondAtEnd : second.atEnd = true := atEnd_related inStep readers ▸ firstAtEnd
      rw [readZerosToEnd_of_atEnd firstAtEnd, readZerosToEnd_of_atEnd secondAtEnd]
      exact pure_alike readers ()
  | succ firstBound inductionHypothesis =>
      by_cases firstAtEnd : first.atEnd = true
      · have secondAtEnd : second.atEnd = true := atEnd_related inStep readers ▸ firstAtEnd
        rw [readZerosToEnd_of_atEnd firstAtEnd, readZerosToEnd_of_atEnd secondAtEnd]
        exact pure_alike readers ()
      · have secondNotAtEnd : ¬ second.atEnd = true := atEnd_related inStep readers ▸ firstAtEnd
        cases secondBound with
        | zero =>
            have secondAtEnd := atEnd_of_bitsLeft_eq_zero (Nat.le_zero.mp secondCovered)
            exact absurd secondAtEnd secondNotAtEnd
        | succ secondBound =>
            rw [readZerosToEnd_succ firstAtEnd, readZerosToEnd_succ secondNotAtEnd]
            apply bind_alike (readBits_alike inStep readers 1)
            intro bit firstRest secondRest firstRead secondRead rests
            have firstFewer := bitsLeft_lt_of_readBits_one firstRead
            have secondFewer := bitsLeft_lt_of_readBits_one secondRead
            split
            · exact inductionHypothesis rests (by omega) (by omega)
            · exact fail_alike rests .invalidTrailingBits

/-- The trailing bits are read alike. -/
theorem readTrailingBits_alike (readers : ReadersRelated related first second) :
    ReadAlike False related (readTrailingBits first) (readTrailingBits second) := by
  rw [readTrailingBits_apply, readTrailingBits_apply]
  apply bind_alike (readBits_alike inStep readers 1)
  intro bit firstRest secondRest _ _ rests
  split
  · exact readZerosToEnd_alike inStep rests (Nat.le_refl _) (Nat.le_refl _)
  · exact fail_alike rests .invalidTrailingBits

end

end Reader

end CodedVideo
