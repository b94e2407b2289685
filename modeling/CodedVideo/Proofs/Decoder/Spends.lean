import CodedVideo.Proofs.Decoder.Ensures
import CodedVideo.Proofs.Decoder.Yields
import CodedVideo.Proofs.NalUnit.EscapedSource

/-!
# What values cost

A decoder spends a number of bits on a value if a run that gives the value leaves so many bits
fewer. Lists whose items cost bits are therefore no longer than the data, whatever count is coded in
front of them, and a loop over such items stops with the data, however many it is asked for.

Main statements: `Spends.replicate`, `Spends.seriesOf`, `Spends.endsWithData`,
`runSeries_eq_of_bitsLeft_lt`.
-/

namespace CodedVideo.Decoder

variable {α β : Type}

/-- A run that gives a value takes at least its cost from the bits that are left. -/
structure Spends (decoder : Decoder α) (cost : α → Nat) : Prop where
  of_run : ∀ {σ : Type} [BitSource σ] [FiniteSource σ] (reader last : Reader σ) (value : α),
    decoder.run reader = (.ok value, last) → cost value + last.bitsLeft ≤ reader.bitsLeft

/-- No decoder leaves more bits than it finds. -/
theorem bitsLeft_le_of_run {σ : Type} [BitSource σ] [FiniteSource σ] {decoder : Decoder α}
    {reader last : Reader σ} {value : α} (run_eq : decoder.run reader = (.ok value, last)) :
    last.bitsLeft ≤ reader.bitsLeft := by
  have preserved {source rest : σ} {bit : Bool}
      (next_eq : BitSource.next source = some (bit, rest))
      (bounded : BitSource.bitsLeft source ≤ reader.bitsLeft) :
      BitSource.bitsLeft rest ≤ reader.bitsLeft :=
    Nat.le_of_lt (Nat.lt_of_lt_of_le (FiniteSource.bitsLeft_lt next_eq) bounded)
  exact Ensures.of_preserved preserved decoder reader last value (Nat.le_refl _) run_eq

namespace Spends

variable {decoder : Decoder α} {cost : α → Nat}

theorem free (decoder : Decoder α) : Spends decoder fun _ => 0 :=
  ⟨fun _ _ _ run_eq => (Nat.zero_add _).symm ▸ bitsLeft_le_of_run run_eq⟩

theorem weaken {less : α → Nat} (spends : Spends decoder cost)
    (weakens : ∀ value, less value ≤ cost value) : Spends decoder less :=
  ⟨fun reader last value run_eq =>
    Nat.le_trans (Nat.add_le_add_right (weakens value) _) (spends.of_run reader last value run_eq)⟩

/-! ## Single reads -/

/-- What each answer to a question takes, the question spends. -/
theorem ask {query : Query α}
    (takes : ∀ {σ : Type} [BitSource σ] [FiniteSource σ] (reader last : Reader σ) (value : α),
      query.answer reader = (.ok value, last) → cost value + last.bitsLeft ≤ reader.bitsLeft) :
    Spends (Decoder.ask query Decoder.done) cost := by
  constructor
  intro σ _ _ reader last result run_eq
  rw [run_ask] at run_eq
  rcases answer_eq : query.answer reader with ⟨fault | answer, rest⟩
  · rw [answer_eq] at run_eq
    cases run_eq
  · rw [answer_eq] at run_eq
    cases run_eq
    exact takes reader last result answer_eq

theorem bits (count : Nat) : Spends (Decoder.bits count) fun _ => count := by
  apply ask
  intro σ _ _ reader last value read
  exact Reader.bitsLeft_of_readBits read

theorem flag : Spends Decoder.flag fun _ => 1 := by
  apply ask
  intro σ _ _ reader last value read
  have fewer : last.bitsLeft < reader.bitsLeft :=
    FiniteSource.bitsLeft_lt (Reader.next_of_readFlag read)
  omega

theorem unsigned : Spends Decoder.unsigned fun _ => 1 := by
  apply ask
  intro σ _ _ reader last value read
  have fewer := Reader.bitsLeft_lt_of_readUnsigned read
  omega

theorem signed : Spends Decoder.signed fun _ => 1 := by
  apply ask
  intro σ _ _ reader last value read
  have fewer := Reader.bitsLeft_lt_of_readSigned read
  omega

/-! ## Composition -/

theorem done {value : α} (isFree : cost value = 0) : Spends (Decoder.done value) cost := by
  constructor
  intro σ _ _ reader last result run_eq
  cases run_eq
  exact Nat.le_of_eq (by rw [isFree, Nat.zero_add])

theorem abort {error : Error} : Spends (Decoder.abort error) cost := by
  constructor
  intro σ _ _ reader last result run_eq
  cases run_eq

/-- A sequence spends a cost of which its first part bears a share, and its second part the rest. -/
theorem bind {first : Decoder β} {next : β → Decoder α} {share : β → Nat}
    (spends : Spends first share)
    (nexts : ∀ value, Spends (next value) fun result => cost result - share value) :
    Spends (first.bind next) cost := by
  constructor
  intro σ _ _ reader last result run_eq
  obtain ⟨value, rest, first_eq, next_eq⟩ := ok_of_run_bind run_eq
  have sharePaid := spends.of_run reader rest value first_eq
  have restPaid := (nexts value).of_run rest last result next_eq
  omega

/-- Nothing is asked of the first part of a sequence. -/
theorem behind {first : Decoder β} {next : β → Decoder α}
    (nexts : ∀ value, Spends (next value) cost) : Spends (first.bind next) cost :=
  bind (free first) nexts

/-- Nothing is asked of the second part of a sequence. -/
theorem opening {first : Decoder β} {next : β → Decoder α} {count : Nat}
    (spends : Spends first fun _ => count) : Spends (first.bind next) fun _ => count :=
  bind spends fun value => (free (next value)).weaken fun _ => Nat.le_of_eq (Nat.sub_self count)

/-- Naming the structure of a part changes nothing of what it spends. -/
theorem within {structureName : String} {offset : Option Nat} {part : Decoder α}
    (spends : Spends part cost) :
    Spends (Decoder.within structureName offset part Decoder.done) cost := by
  constructor
  intro σ _ _ reader last result run_eq
  exact spends.of_run reader last result (ok_of_run_within run_eq)

theorem whenElse {isThere : Bool} {absent : α} {part : Decoder α} (spends : Spends part cost)
    (isFree : cost absent = 0) : Spends (Decoder.whenElse isThere absent part) cost := by
  cases isThere with
  | true => exact spends
  | false => exact done isFree

theorem optional {isThere : Bool} {part : Decoder α} (spends : Spends part cost) :
    Spends (Decoder.optional isThere part) fun value? => value?.elim 0 cost := by
  cases isThere with
  | true => exact bind spends fun value => done (Nat.sub_self (cost value))
  | false => exact done rfl

/-! ## Lists -/

/-- Where each step spends what it adds to a potential, all steps spend what they add to it
together. -/
theorem foldFrom {step : Nat → α → Decoder α} (potential : α → Nat)
    (steps : ∀ index state, Spends (step index state) fun next => potential next - potential state)
    (count index : Nat) (state : α) :
    Spends (Decoder.foldFrom step count index state) fun last =>
      potential last - potential state := by
  induction count generalizing index state with
  | zero => exact done (Nat.sub_self _)
  | succ count inductionHypothesis =>
      refine bind (steps index state) fun next => ?_
      refine (inductionHypothesis (index + 1) next).weaken fun last => ?_
      omega

/-- A list spends for each of its items what a single one costs. -/
theorem replicate {item : Decoder α} {width : Nat} (spends : Spends item fun _ => width)
    (count : Nat) :
    Spends (Decoder.replicate count item) fun values => values.length * width := by
  have steps (values : List α) :
      Spends (item.bind fun value => Decoder.done (value :: values)) fun next =>
        next.length * width - values.length * width := by
    refine bind spends fun value => done ?_
    rw [List.length_cons, Nat.succ_mul]
    omega
  refine bind (foldFrom (fun values : List α => values.length * width)
    (fun _ values => steps values) count 0 []) fun values => done ?_
  rw [List.length_reverse, List.length_nil, Nat.zero_mul, Nat.sub_zero, Nat.sub_self]

/-- A list whose items cost a bit costs its length. -/
theorem listOf {item : Decoder α} (spends : Spends item fun _ => 1) (count : Nat) :
    Spends (Decoder.replicate count item) List.length :=
  (spends.replicate count).weaken fun values => Nat.le_of_eq (Nat.mul_one values.length).symm

/-- Each entry of a series opens with a code, so it costs a bit. -/
theorem runSeries {σ : Type} [BitSource σ] [FiniteSource σ] {entry : Nat → Decoder (Option β)}
    {bound : Nat} {values found : List β} {reader last : Reader σ}
    (run_eq : runSeries (fun code => (entry code).run) bound values reader = (.ok found, last)) :
    found.length + last.bitsLeft ≤ values.length + reader.bitsLeft := by
  induction bound generalizing values reader with
  | zero => cases run_eq
  | succ bound inductionHypothesis =>
      rw [runSeries_succ] at run_eq
      rcases code_eq : Reader.readUnsigned reader with ⟨fault | code, opened⟩
      · rw [code_eq] at run_eq
        cases run_eq
      · have fewer := Reader.bitsLeft_lt_of_readUnsigned code_eq
        rw [code_eq, resume] at run_eq
        rcases entry_eq : (entry code).run opened with ⟨error | _ | value, closed⟩
        · rw [entry_eq] at run_eq
          cases run_eq
        · have noMore := bitsLeft_le_of_run entry_eq
          rw [entry_eq] at run_eq
          cases run_eq
          rw [List.length_reverse]
          omega
        · have noMore := bitsLeft_le_of_run entry_eq
          rw [entry_eq] at run_eq
          have behind := inductionHypothesis run_eq
          rw [List.length_cons] at behind
          omega

theorem seriesOf (entry : Nat → Decoder (Option β)) :
    Spends (Decoder.seriesOf entry) List.length := by
  constructor
  intro σ _ _ reader last values run_eq
  rw [Decoder.seriesOf, run_series] at run_eq
  rcases series_eq : Decoder.runSeries (fun code => (entry code).run) (reader.bitsLeft + 1) []
    reader with ⟨error | found, rest⟩
  · rw [series_eq] at run_eq
    cases run_eq
  · rw [series_eq] at run_eq
    cases run_eq
    have paid := runSeries series_eq
    rwa [List.length_nil, Nat.zero_add] at paid

/-! ## Units -/

/-- No value costs more than the eight bits of each byte of its unit. -/
theorem of_decodeUnit (spends : Spends decoder cost) {unit : List UInt8} {value : α}
    (isDecoded : decoder.decodeUnit unit = .ok value) : cost value ≤ 8 * unit.length := by
  rw [decodeUnit] at isDecoded
  rcases run_eq : decoder.run (EscapedReader.ofUnit unit) with ⟨result, last⟩
  rw [run_eq] at isDecoded
  cases isDecoded
  have paid := spends.of_run _ _ _ run_eq
  have allBits : (EscapedReader.ofUnit unit).bitsLeft = unit.length * 8 := rfl
  omega

end Spends

/-! ## Loops -/

/-- A loop over the item stops with the data: it goes no further than the item behind as many as
there are bits left, whatever count it is given, and where it gives a list, that has the length of the
count and the data had a bit for each item. -/
structure EndsWithData (item : Decoder α) : Prop where
  run_eq : ∀ {σ : Type} [BitSource σ] [FiniteSource σ] (count : Nat) (reader : Reader σ),
    (replicate count item).run reader =
      (replicate (min count (reader.bitsLeft + 1)) item).run reader
  length : ∀ {σ : Type} [BitSource σ] [FiniteSource σ] (count : Nat) (reader last : Reader σ)
    (values : List α), (replicate count item).run reader = (.ok values, last) →
      values.length = count ∧ count + last.bitsLeft ≤ reader.bitsLeft

/-- A number of steps and more of them are the former, and the latter behind them. -/
theorem foldFrom_add (step : Nat → α → Decoder α) (count more index : Nat) (state : α) :
    foldFrom step (count + more) index state =
      (foldFrom step count index state).bind (foldFrom step more (index + count)) := by
  induction count generalizing index state with
  | zero => rw [Nat.zero_add, foldFrom, done_bind, Nat.add_zero]
  | succ count inductionHypothesis =>
      have place_eq : index + (count + 1) = index + 1 + count := by omega
      rw [Nat.add_right_comm, foldFrom, foldFrom, bind_assoc, place_eq]
      simp only [inductionHypothesis]

/-- More items than a loop fails for are not reached. -/
theorem run_replicate_add_of_error {σ : Type} [BitSource σ] {item : Decoder α} {count : Nat}
    {reader stopped : Reader σ} {error : Error}
    (failed : (replicate count item).run reader = (.error error, stopped)) (more : Nat) :
    (replicate (count + more) item).run reader = (.error error, stopped) := by
  rw [replicate, times, run_bind] at failed
  rw [replicate, times, foldFrom_add, bind_assoc, run_bind]
  rcases items_eq : (foldFrom (fun _ items => item.bind fun value => done (value :: items)) count 0
    []).run reader with ⟨itemError | items, rest⟩
  · rw [items_eq] at failed
    exact failed
  · rw [items_eq] at failed
    cases failed

/-- A loop over items that cost bits stops with the data. -/
theorem Spends.endsWithData {item : Decoder α} (spends : Spends item fun _ => 1) :
    EndsWithData item := by
  have length {σ : Type} [BitSource σ] [FiniteSource σ] (count : Nat) (reader last : Reader σ)
      (values : List α) (run_eq : (Decoder.replicate count item).run reader = (.ok values, last)) :
      values.length = count ∧ count + last.bitsLeft ≤ reader.bitsLeft := by
    have length_eq := (Yields.replicate count item).of_run reader last values run_eq
    have paid := (spends.listOf count).of_run reader last values run_eq
    omega
  refine ⟨fun count reader => ?_, length⟩
  rcases Nat.le_total count (reader.bitsLeft + 1) with few | many
  · rw [Nat.min_eq_left few]
  · -- More items than bits are not all there, so a loop over so many fails, and any longer one too.
    obtain ⟨more, rfl⟩ := Nat.exists_eq_add_of_le many
    rw [Nat.min_eq_right many]
    rcases run_eq : (Decoder.replicate (reader.bitsLeft + 1) item).run reader with
      ⟨error | values, last⟩
    · exact run_replicate_add_of_error run_eq more
    · have paid := (length _ reader last values run_eq).2
      omega

/-- The bound on the entries of a series is never felt: any other one that covers the bits that are
left gives the same. -/
theorem runSeries_eq_of_bitsLeft_lt {σ : Type} [BitSource σ] [FiniteSource σ]
    (entry : Nat → Decoder (Option β)) {bound : Nat} {reader : Reader σ}
    (covered : reader.bitsLeft < bound) (values : List β) :
    runSeries (fun code => (entry code).run) bound values reader =
      runSeries (fun code => (entry code).run) (reader.bitsLeft + 1) values reader := by
  have readers : ReadersRelated (fun first second => first = second ∧ True) reader reader :=
    ⟨⟨rfl, trivial⟩, rfl⟩
  have alike := runSeries_alike
    (fun code _ inStep _ _ readers =>
      (entry code).run_alike (fun impossible => impossible.elim) inStep readers)
    (InStep.of_preserved fun _ _ => trivial) readers covered (Nat.lt_succ_self _) values
  obtain ⟨result_eq, ⟨source_eq, -⟩, fault_eq⟩ := alike.together
  exact Prod.ext result_eq (congrArg₂ Reader.mk source_eq fault_eq)

end CodedVideo.Decoder
