import CodedVideo.Decoder.Run
import CodedVideo.Proofs.Bits.InStep

/-!
# Decoders on sources in step

A decoder gives the same result on two sources that are in step. Where the first source may end
early, that holds of decoders that never look ahead: they ask neither whether data remains nor for
the trailing bits, so nothing but the bits they have read decides their result.
-/

namespace CodedVideo

/-! ## Descriptions that never look ahead -/

/-- The answer depends on more than the bits that are read for it. -/
def Query.looksAhead {α : Type} : Query α → Bool
  | hasMoreData | trailingBits => true
  | _ => false

namespace Decoder

/-- No question of the decoder looks ahead. -/
def NeverLooksAhead {α : Type} : Decoder α → Prop
  | done _ => True
  | abort _ => True
  | ask query next => query.looksAhead = false ∧ ∀ answer, (next answer).NeverLooksAhead
  | within _ _ part next => part.NeverLooksAhead ∧ ∀ value, (next value).NeverLooksAhead
  | series entry next =>
      (∀ code, (entry code).NeverLooksAhead) ∧ ∀ values, (next values).NeverLooksAhead

end Decoder

variable {σ τ : Type} [BitSource σ] [BitSource τ]

/-! ## Single questions -/

/-- Sources that end together may be treated as such. -/
theorem InStep.of_not_early {early : Prop} {related : σ → τ → Prop}
    (inStep : InStep early related) (together : ¬ early) : InStep False related where
  position_eq := inStep.position_eq
  next_related sources := by
    rcases inStep.next_related sources with ⟨firstEnd, isEarly | secondEnd⟩ | steps
    · exact absurd isEarly together
    · exact Or.inl ⟨firstEnd, Or.inr secondEnd⟩
    · exact Or.inr steps

omit [BitSource σ] [BitSource τ] in
/-- Runs that end alike still do where the first one may end early. -/
theorem EndAlike.allowEarly {ε α : Type} {early : Prop} {isEnd : ε → Prop}
    {related : σ → τ → Prop} {first : Except ε α × Reader σ} {second : Except ε α × Reader τ}
    (alike : EndAlike False isEnd related first second) :
    EndAlike early isEnd related first second :=
  alike.imp_right fun impossible => impossible.1.elim

/-- Each question is answered alike. -/
theorem Query.answer_alike [FiniteSource σ] [FiniteSource τ] {early : Prop}
    {related : σ → τ → Prop} (inStep : InStep early related) {first : Reader σ}
    {second : Reader τ} (readers : ReadersRelated related first second) {α : Type}
    (query : Query α) (blind : early → query.looksAhead = false) :
    ReadAlike early related (query.answer first) (query.answer second) := by
  cases query with
  | bits count => exact Reader.readBits_alike inStep readers count
  | wideBits count => exact Reader.readWideBits_alike inStep readers count
  | flag => exact Reader.readFlag_alike inStep readers
  | unsigned => exact Reader.readUnsigned_alike inStep readers
  | signed => exact Reader.readSigned_alike inStep readers
  | skip count => exact Reader.skip_alike inStep readers count
  | align => exact Reader.align_alike inStep readers
  | position =>
      left
      constructor
      · simp only [answer, Reader.position_related inStep readers]
      · exact readers
  | hasMoreData =>
      have together : ¬ early := fun isEarly => Bool.noConfusion (blind isEarly)
      left
      constructor
      · simp only [answer, Reader.hasMoreData_related (inStep.of_not_early together) readers]
      · exact readers
  | trailingBits =>
      have together : ¬ early := fun isEarly => Bool.noConfusion (blind isEarly)
      exact (Reader.readTrailingBits_alike (inStep.of_not_early together) readers).allowEarly

/-! ## Invariants -/

/-- What every step of a source keeps, it keeps next to itself. -/
theorem InStep.of_preserved {kept : σ → Prop}
    (preserved : ∀ {source rest : σ} {bit : Bool},
      BitSource.next source = some (bit, rest) → kept source → kept rest) :
    InStep False fun first second : σ => first = second ∧ kept first where
  position_eq sources := congrArg BitSource.position sources.1
  next_related {first second} sources := by
    rcases sources with ⟨rfl, holds⟩
    cases next_eq : BitSource.next first with
    | none => exact Or.inl ⟨rfl, Or.inr rfl⟩
    | some step => exact Or.inr ⟨step.1, step.2, step.2, rfl, rfl, rfl, preserved next_eq holds⟩

/-- Sources in step stay so under bounds on the bits that are left. -/
theorem InStep.and_bitsLeft_le [FiniteSource σ] [FiniteSource τ] {early : Prop}
    {related : σ → τ → Prop} (inStep : InStep early related) (firstBound secondBound : Nat) :
    InStep early fun first second => related first second ∧
      BitSource.bitsLeft first ≤ firstBound ∧ BitSource.bitsLeft second ≤ secondBound where
  position_eq sources := inStep.position_eq sources.1
  next_related sources := by
    rcases sources with ⟨sources, firstLeft, secondLeft⟩
    rcases inStep.next_related sources with ends |
      ⟨bit, firstRest, secondRest, firstNext, secondNext, rests⟩
    · exact Or.inl ends
    · have firstFewer := FiniteSource.bitsLeft_lt firstNext
      have secondFewer := FiniteSource.bitsLeft_lt secondNext
      exact Or.inr ⟨bit, firstRest, secondRest, firstNext, secondNext, rests, by omega, by omega⟩

/-! ## Whole runs -/

/-- Attributing an error to a structure does not hide that the data ended too early. -/
theorem Error.isTruncation_locate {error : Error} (structureName : String) (offset : Nat)
    (isEnd : error.isTruncation = true) :
    (error.locate structureName offset).isTruncation = true := by
  cases error with
  | unlocated fault => cases fault <;> simp_all [isTruncation, locate]
  | truncated name bit => rfl
  | malformed name description => exact isEnd
  | missingReference name kind id => exact isEnd
  | unsupported name feature => exact isEnd
  | resourceExhausted description => exact isEnd

/-- Two runs of decoders have the same result and leave related readers. Under `early` the first one
may instead report that the data ended too early. -/
def RunAlike {α : Type} (early : Prop) (related : σ → τ → Prop)
    (first : Except Error α × Reader σ) (second : Except Error α × Reader τ) : Prop :=
  EndAlike early (·.isTruncation = true) related first second

namespace Decoder

/-! ### What follows each form -/

/-- A question is followed by what depends on its answer. -/
theorem run_ask {α β : Type} (query : Query β) (next : β → Decoder α) (reader : Reader σ) :
    (ask query next).run reader =
      resume (fun answer => (next answer).run) (fun fault _ => .unlocated fault)
        (query.answer reader) := by
  rw [run]
  rcases query.answer reader with ⟨fault | answer, rest⟩ <;> rfl

/-- A located part is followed by what depends on its value. -/
theorem run_within {α β : Type} (structureName : String) (offset : Option Nat) (part : Decoder β)
    (next : β → Decoder α) (reader : Reader σ) :
    (within structureName offset part next).run reader =
      resume (fun value => (next value).run)
        (fun error stopped => error.locate structureName (offset.getD stopped.position))
        (part.run reader) := by
  rw [run]
  rcases part.run reader with ⟨error | value, rest⟩ <;> rfl

/-- A series is followed by what depends on its values. -/
theorem run_series {α β : Type} (entry : Nat → Decoder (Option β)) (next : List β → Decoder α)
    (reader : Reader σ) :
    (series entry next).run reader =
      resume (fun values => (next values).run) (fun error _ => error)
        (runSeries (fun code => (entry code).run) (reader.bitsLeft + 1) [] reader) := by
  rw [run]
  rcases runSeries _ _ _ reader with ⟨error | values, rest⟩ <;> rfl

/-- The code that opens an entry is followed by the entry, and the entry by those behind it, unless
it ends the series. -/
theorem runSeries_succ {β : Type}
    (entry : Nat → Reader σ → Except Error (Option β) × Reader σ) (bound : Nat)
    (values : List β) (reader : Reader σ) :
    runSeries entry (bound + 1) values reader =
      resume
        (fun code opened =>
          resume
            (fun
              | none => fun last => (.ok values.reverse, last)
              | some value => runSeries entry bound (value :: values))
            (fun error _ => error) (entry code opened))
        (fun fault _ => .unlocated fault) (Reader.readUnsigned reader) := by
  rw [runSeries]
  rcases Reader.readUnsigned reader with ⟨fault | code, opened⟩
  · rfl
  · simp only [resume]
    rcases entry code opened with ⟨error | _ | value, closed⟩ <;> rfl

/-! ### Runs alike -/

variable [FiniteSource σ] [FiniteSource τ]

/-- Series end alike under any two bounds that cover the bits that are left, if their entries do on
all sources in step: each entry opens with a code, so it leaves fewer bits. -/
theorem runSeries_alike {early : Prop} {β : Type} {entry : Nat → Decoder (Option β)}
    (entries : ∀ code {related : σ → τ → Prop}, InStep early related →
      ∀ {first : Reader σ} {second : Reader τ}, ReadersRelated related first second →
        RunAlike early related ((entry code).run first) ((entry code).run second))
    {related : σ → τ → Prop} (inStep : InStep early related) {firstBound secondBound : Nat}
    {first : Reader σ} {second : Reader τ} (readers : ReadersRelated related first second)
    (firstCovered : first.bitsLeft < firstBound) (secondCovered : second.bitsLeft < secondBound)
    (values : List β) :
    RunAlike early related (runSeries (fun code => (entry code).run) firstBound values first)
      (runSeries (fun code => (entry code).run) secondBound values second) := by
  induction firstBound generalizing secondBound first second values with
  | zero => exact absurd firstCovered (Nat.not_lt_zero _)
  | succ firstBound inductionHypothesis =>
      cases secondBound with
      | zero => exact absurd secondCovered (Nat.not_lt_zero _)
      | succ secondBound =>
          rw [runSeries_succ, runSeries_succ]
          apply (Reader.readUnsigned_alike inStep readers).resume
          · intro code firstOpened secondOpened firstRead secondRead opened
            have firstFewer := Reader.bitsLeft_lt_of_readUnsigned firstRead
            have secondFewer := Reader.bitsLeft_lt_of_readUnsigned secondRead
            -- The entry keeps the bounds that hold behind its code.
            have bounded := inStep.and_bitsLeft_le firstOpened.bitsLeft secondOpened.bitsLeft
            have entryAlike := entries code bounded
              ⟨⟨opened.sources, Nat.le_refl _, Nat.le_refl _⟩, opened.fault_eq⟩
            have entryKept : RunAlike early related ((entry code).run firstOpened)
                ((entry code).run secondOpened) :=
              entryAlike.imp_left fun same => ⟨same.1, same.2.sources.1, same.2.fault_eq⟩
            apply entryKept.resume
            · intro result firstClosed secondClosed firstRun secondRun closed
              cases result with
              | none => exact Or.inl ⟨rfl, closed⟩
              | some value =>
                  rcases entryAlike with ⟨_, bounds⟩ | ⟨_, error, failed, _⟩
                  · rw [firstRun, secondRun] at bounds
                    have firstBounded : firstClosed.bitsLeft ≤ firstOpened.bitsLeft :=
                      bounds.sources.2.1
                    have secondBounded : secondClosed.bitsLeft ≤ secondOpened.bitsLeft :=
                      bounds.sources.2.2
                    exact inductionHypothesis closed (by omega) (by omega) (value :: values)
                  · rw [firstRun] at failed
                    cases failed
            · intro error firstRest secondRest rests
              rfl
            · intro error rest isEnd
              exact isEnd
          · intro fault firstRest secondRest rests
            rfl
          · intro fault rest isEnd
            subst isEnd
            rfl

/-- A decoder runs alike on sources in step. Where the first source may end early, it must not look
ahead. -/
theorem run_alike {early : Prop} {α : Type} (decoder : Decoder α)
    (blind : early → decoder.NeverLooksAhead) {related : σ → τ → Prop}
    (inStep : InStep early related) {first : Reader σ} {second : Reader τ}
    (readers : ReadersRelated related first second) :
    RunAlike early related (decoder.run first) (decoder.run second) := by
  induction decoder generalizing related first second with
  | done value => exact Or.inl ⟨rfl, readers⟩
  | abort error => exact Or.inl ⟨rfl, readers⟩
  | ask query next inductionHypothesis =>
      rw [run_ask, run_ask]
      apply (query.answer_alike inStep readers fun isEarly => (blind isEarly).1).resume
      · intro answer firstRest secondRest _ _ rests
        exact inductionHypothesis answer (fun isEarly => (blind isEarly).2 answer) inStep rests
      · intro fault firstRest secondRest rests
        rfl
      · intro fault rest isEnd
        subst isEnd
        rfl
  | within structureName offset part next partHypothesis nextHypothesis =>
      rw [run_within, run_within]
      apply (partHypothesis (fun isEarly => (blind isEarly).1) inStep readers).resume
      · intro value firstRest secondRest _ _ rests
        exact nextHypothesis value (fun isEarly => (blind isEarly).2 value) inStep rests
      · intro error firstRest secondRest rests
        rw [Reader.position_related inStep rests]
      · intro error rest isEnd
        exact Error.isTruncation_locate _ _ isEnd
  | series entry next entryHypothesis nextHypothesis =>
      rw [run_series, run_series]
      apply (runSeries_alike (fun code _ => entryHypothesis code fun isEarly =>
        (blind isEarly).1 code) inStep readers (Nat.lt_succ_self _) (Nat.lt_succ_self _) []).resume
      · intro values firstRest secondRest _ _ rests
        exact nextHypothesis values (fun isEarly => (blind isEarly).2 values) inStep rests
      · intro error firstRest secondRest rests
        rfl
      · intro error rest isEnd
        exact isEnd

end Decoder

end CodedVideo
