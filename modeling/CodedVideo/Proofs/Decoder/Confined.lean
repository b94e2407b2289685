import CodedVideo.Proofs.Decoder.Ensures
import CodedVideo.Proofs.Decoder.Widths
import CodedVideo.Proofs.Decoder.Yields
import CodedVideo.Proofs.NalUnit.Cut
import CodedVideo.Proofs.NalUnit.ReaderCounts

/-!
# Decoders that stay within a unit

A decoder is confined if, from wherever in a unit it starts, it keeps to the widths of single reads
and reports no truncation behind the end of the payload. A grammar that refers to no parameter set
also reports none as absent. Descriptions that are composed of confined ones are confined, so
instance search finds it for a whole grammar, once it has been told of the widths that are computed.
-/

namespace CodedVideo

/-! ## Bounds that instance search finds -/

/-- Two checks come out alike, which instance search sees by evaluating them. -/
class Agrees (first second : Bool) : Prop where
  eq : first = second

instance Agrees.refl (check : Bool) : Agrees check check := ⟨rfl⟩

/-- A number is at most `bound`. -/
class AtMost (bound number : Nat) : Prop where
  le : number ≤ bound

namespace AtMost

instance succ (bound number : Nat) [isAtMost : AtMost bound number] :
    AtMost (bound + 1) (number + 1) :=
  ⟨Nat.succ_le_succ isAtMost.le⟩

instance literal (bound number : Nat) [agrees : Agrees (Nat.ble number bound) true] :
    AtMost bound number :=
  ⟨Nat.le_of_ble_eq_true agrees.eq⟩

end AtMost

/-! ## Errors within a unit -/

/-- A truncation is reported inside the payload of the unit, and an absent parameter set only where
the grammar may refer to one. -/
structure Error.Within (unit : List UInt8) (mayRefer : Prop) (error : Error) : Prop where
  offset_le : ∀ structureName offset, error = .truncated structureName offset →
    offset ≤ 8 * (Emulation.remove unit).length
  refers : error.isMissingReference = true → mayRefer

/-- A fault that is not attributed yet is at no bit. -/
theorem Error.within_unlocated (unit : List UInt8) (mayRefer : Prop) (fault : BitFault) :
    (Error.unlocated fault).Within unit mayRefer :=
  ⟨fun _ _ => Error.noConfusion, Bool.noConfusion⟩

/-- Attributing an error to a place inside the payload keeps it within the unit. -/
theorem Error.Within.locate {unit : List UInt8} {mayRefer : Prop} {error : Error}
    (isWithin : error.Within unit mayRefer) (structureName : String) {offset : Nat}
    (offset_le : offset ≤ 8 * (Emulation.remove unit).length) :
    (error.locate structureName offset).Within unit mayRefer := by
  cases error with
  | unlocated fault =>
      cases fault with
      | unexpectedEnd =>
          refine ⟨fun _ _ located => ?_, Bool.noConfusion⟩
          cases located
          exact offset_le
      | _ => exact ⟨fun _ _ => Error.noConfusion, Bool.noConfusion⟩
  | _ => exact isWithin

/-- The error is one with which a grammar aborts: it names no bit. -/
class Error.Raised (mayRefer : Prop) (error : Error) : Prop where
  isWithin : ∀ unit, error.Within unit mayRefer

namespace Error.Raised

variable {mayRefer : Prop}

instance malformed (structureName description : String) :
    Raised mayRefer (.malformed structureName description) :=
  ⟨fun _ => ⟨fun _ _ => Error.noConfusion, Bool.noConfusion⟩⟩

instance unsupported (structureName feature : String) :
    Raised mayRefer (.unsupported structureName feature) :=
  ⟨fun _ => ⟨fun _ _ => Error.noConfusion, Bool.noConfusion⟩⟩

instance missingReference (structureName kind : String) (id : Nat) :
    Raised True (.missingReference structureName kind id) :=
  ⟨fun _ => ⟨fun _ _ => Error.noConfusion, fun _ => trivial⟩⟩

instance wrongUnitType (structureName : String) (unitType : Nat) :
    Raised mayRefer (.wrongUnitType structureName unitType) :=
  malformed _ _

end Error.Raised

/-! ## Places in a unit -/

namespace EscapedSource

/-- A source of a unit that has handed out at least `start` bits. -/
structure StandsIn (unit : List UInt8) (start : Nat) (source : EscapedSource) : Prop
    extends ValidIn unit source where
  start_le : start ≤ BitSource.position source

variable {unit : List UInt8} {start : Nat} {source : EscapedSource}

theorem standsIn_ofUnit (unit : List UInt8) : (ofUnit unit).StandsIn unit 0 :=
  ⟨validIn_ofUnit unit, Nat.zero_le _⟩

/-- A source does not go back. -/
theorem StandsIn.next {after : EscapedSource} {bit : Bool} (stands : source.StandsIn unit start)
    (next_eq : BitSource.next source = some (bit, after)) : after.StandsIn unit start where
  toValidIn := stands.toValidIn.next next_eq
  start_le := by
    rw [stands.position_next next_eq]
    exact Nat.le_succ_of_le stands.start_le

theorem inStep_standsIn (unit : List UInt8) (start : Nat) :
    InStep False fun first second : EscapedSource => first = second ∧ first.StandsIn unit start :=
  .of_preserved fun next_eq stands => stands.next next_eq

/-- No answer goes back. -/
theorem StandsIn.of_answer {reader rest : EscapedReader}
    (stands : reader.source.StandsIn unit start) {α : Type} (query : Query α)
    {result : Except BitFault α} (answer_eq : query.answer reader = (result, rest)) :
    rest.source.StandsIn unit start := by
  have alike := query.answer_alike (inStep_standsIn unit start) ⟨⟨rfl, stands⟩, rfl⟩
    fun impossible => impossible.elim
  rw [answer_eq] at alike
  exact alike.together.2.sources.2

/-- No run goes back. -/
theorem StandsIn.of_run {reader last : EscapedReader} (stands : reader.source.StandsIn unit start)
    {α : Type} {decoder : Decoder α} {result : Except Error α}
    (run_eq : decoder.run reader = (result, last)) : last.source.StandsIn unit start := by
  have alike := decoder.run_alike (fun impossible => impossible.elim) (inStep_standsIn unit start)
    ⟨⟨rfl, stands⟩, rfl⟩
  rw [run_eq] at alike
  exact alike.together.2.sources.2

end EscapedSource

open EscapedSource (StandsIn)

/-! ## Confined decoders -/

namespace Decoder

/-- Wherever in a unit a run starts, from bit `start` on, it keeps to the widths and ends with no
error but one within the unit. -/
class Confined (start : Nat) (mayRefer : Prop) {α : Type} (decoder : Decoder α) : Prop where
  keepsWidths : ∀ (unit : List UInt8) (reader : EscapedReader),
    reader.source.StandsIn unit start → decoder.KeepsWidths reader
  isWithin : ∀ (unit : List UInt8) (reader : EscapedReader) (error : Error),
    reader.source.StandsIn unit start → (decoder.run reader).1 = .error error →
      error.Within unit mayRefer

namespace Confined

variable {start : Nat} {mayRefer : Prop} {α β : Type}

/-! ### Single reads -/

instance done (value : α) : Confined start mayRefer (Decoder.done value) where
  keepsWidths _ _ _ := trivial
  isWithin _ _ _ _ failed := nomatch failed

instance pure (value : α) : Confined start mayRefer (Pure.pure value : Decoder α) :=
  done value

instance abort (error : Error) [raised : error.Raised mayRefer] :
    Confined start mayRefer (Decoder.abort error : Decoder α) where
  keepsWidths _ _ _ := trivial
  isWithin unit _ _ _ failed := by
    cases failed
    exact raised.isWithin unit

/-- A read that fails is at no bit yet. -/
theorem ask {query : Query α} (fits : query.Fits) :
    Confined start mayRefer (Decoder.ask query Decoder.done) where
  keepsWidths _ _ _ := ⟨fits, fun _ _ _ => trivial⟩
  isWithin unit reader error _ failed := by
    rw [run_ask] at failed
    rcases answer_eq : query.answer reader with ⟨fault | answer, rest⟩
    · rw [answer_eq] at failed
      cases failed
      exact Error.within_unlocated unit mayRefer fault
    · rw [answer_eq] at failed
      cases failed

instance bits (count : Nat) [isAtMost : AtMost 32 count] :
    Confined start mayRefer (Decoder.bits count) :=
  ask isAtMost.le

instance wideBits (count : Nat) [isAtMost : AtMost 64 count] :
    Confined start mayRefer (Decoder.wideBits count) :=
  ask isAtMost.le

instance flag : Confined start mayRefer Decoder.flag := ask trivial

instance unsigned : Confined start mayRefer Decoder.unsigned := ask trivial

instance signed : Confined start mayRefer Decoder.signed := ask trivial

instance align : Confined start mayRefer Decoder.align := ask trivial

instance position : Confined start mayRefer Decoder.position := ask trivial

instance hasMoreData : Confined start mayRefer Decoder.hasMoreData := ask trivial

instance trailingBits : Confined start mayRefer Decoder.trailingBits := ask trivial

/-! ### Sequencing -/

/-- A sequence is confined if its parts are, the second one from wherever the first one leads and
for the values that it yields. -/
theorem onward {later : Nat} {first : Decoder β} {next : β → Decoder α} {middle : β → Prop}
    (firstConfined : Confined start mayRefer first) (yields : Yields first middle)
    (leads : ∀ unit, Ensures (fun reader : EscapedReader => reader.source.StandsIn unit start) first
      fun _ reader => reader.source.StandsIn unit later)
    (nextConfined : ∀ value, middle value → Confined later mayRefer (next value)) :
    Confined start mayRefer (first.bind next) where
  keepsWidths unit reader stands := by
    refine (firstConfined.keepsWidths unit reader stands).bind fun value rest run_eq => ?_
    have meets := yields.of_run reader rest value run_eq
    exact (nextConfined value meets).keepsWidths unit rest (leads unit _ _ _ stands run_eq)
  isWithin unit reader error stands failed := by
    rcases error_of_run_bind failed with firstFailed | ⟨value, rest, first_eq, nextFailed⟩
    · exact firstConfined.isWithin unit reader error stands firstFailed
    · have meets := yields.of_run reader rest value first_eq
      have standsBehind := leads unit _ _ _ stands first_eq
      exact (nextConfined value meets).isWithin unit rest error standsBehind nextFailed

/-- A sequence is confined if its parts are, the second one for the values that the first one
yields. -/
theorem behind_yields {first : Decoder β} {next : β → Decoder α} {middle : β → Prop}
    [firstConfined : Confined start mayRefer first] (yields : Yields first middle)
    (nexts : ∀ value, middle value → Confined start mayRefer (next value)) :
    Confined start mayRefer (first.bind next) :=
  firstConfined.onward yields (fun _ _ _ _ stands run_eq => stands.of_run run_eq) nexts

/-- A sequence is confined if its parts are. -/
theorem behind {first : Decoder β} {next : β → Decoder α} [Confined start mayRefer first]
    (nexts : ∀ value, Confined start mayRefer (next value)) :
    Confined start mayRefer (first.bind next) :=
  behind_yields (Yields.trivial first) fun value _ => nexts value

instance bind (first : Decoder β) (next : β → Decoder α) [Confined start mayRefer first]
    [nexts : ∀ value, Confined start mayRefer (next value)] :
    Confined start mayRefer (first.bind next) :=
  behind nexts

instance monadBind (first : Decoder β) (next : β → Decoder α) [Confined start mayRefer first]
    [∀ value, Confined start mayRefer (next value)] : Confined start mayRefer (first >>= next) :=
  bind first next

/-! ### Composite forms -/

instance ite (condition : Prop) [Decidable condition] (first second : Decoder α)
    [Confined start mayRefer first] [Confined start mayRefer second] :
    Confined start mayRefer (if condition then first else second) := by
  split <;> infer_instance

/-- A part that is located at a bit that the source has reached is confined. -/
theorem within {offset : Option Nat} (structureName : String) (part : Decoder α)
    [partConfined : Confined start mayRefer part] (isReached : ∀ bit ∈ offset, bit ≤ start) :
    Confined start mayRefer (Decoder.within structureName offset part Decoder.done) where
  keepsWidths unit reader stands :=
    ⟨partConfined.keepsWidths unit reader stands, fun _ _ _ => trivial⟩
  isWithin unit reader error stands failed := by
    obtain ⟨inner, stopped, part_eq, rfl⟩ := error_of_run_within failed
    have innerWithin := partConfined.isWithin unit reader inner stands (congrArg Prod.fst part_eq)
    refine innerWithin.locate _ ?_
    cases offset with
    | none => exact (stands.of_run part_eq).position_le
    | some bit =>
        exact Nat.le_trans (isReached bit rfl) (Nat.le_trans stands.start_le stands.position_le)

instance located (structureName : String) (part : Decoder α) [Confined start mayRefer part] :
    Confined start mayRefer (Decoder.located structureName part) :=
  within structureName part nofun

instance locatedAtStart (structureName : String) (part : Decoder α)
    [Confined start mayRefer part] :
    Confined start mayRefer (Decoder.locatedAt structureName 0 part) :=
  within structureName part fun bit isStart => by
    cases isStart
    exact Nat.zero_le start

instance seriesOf (entry : Nat → Decoder (Option β))
    [entryConfined : ∀ code, Confined start mayRefer (entry code)] :
    Confined start mayRefer (Decoder.seriesOf entry) where
  keepsWidths unit reader stands := by
    refine ⟨?_, fun _ _ _ => trivial⟩
    generalize reader.bitsLeft + 1 = bound
    induction bound generalizing reader with
    | zero => trivial
    | succ bound inductionHypothesis =>
        intro code opened read_eq
        have openedStands := stands.of_answer .unsigned read_eq
        refine ⟨(entryConfined code).keepsWidths unit opened openedStands, ?_⟩
        intro value closed run_eq
        exact inductionHypothesis closed (openedStands.of_run run_eq)
  isWithin unit reader error stands failed := by
    rw [Decoder.seriesOf, run_series] at failed
    revert failed
    generalize reader.bitsLeft + 1 = bound
    generalize ([] : List β) = values
    induction bound generalizing reader values with
    | zero =>
        intro failed
        cases failed
        exact Error.within_unlocated unit mayRefer _
    | succ bound inductionHypothesis =>
        intro failed
        rw [runSeries_succ] at failed
        rcases read_eq : Reader.readUnsigned reader with ⟨fault | code, opened⟩
        · rw [read_eq] at failed
          cases failed
          exact Error.within_unlocated unit mayRefer fault
        have openedStands := stands.of_answer .unsigned read_eq
        rcases run_eq : (entry code).run opened with ⟨stoppedWith | _ | value, closed⟩
        · simp only [read_eq, run_eq, resume] at failed
          cases failed
          exact (entryConfined code).isWithin unit opened error openedStands
            (congrArg Prod.fst run_eq)
        · simp only [read_eq, run_eq, resume] at failed
          cases failed
        · simp only [read_eq, run_eq, resume] at failed
          exact inductionHypothesis closed (openedStands.of_run run_eq) (value :: values) failed

instance require (condition : Bool) (error : Error) [error.Raised mayRefer] :
    Confined start mayRefer (Decoder.require condition error) :=
  ite _ _ _

/-- A computation with no other errors than those of a grammar is confined. -/
theorem ofExcept {computed : Except Error α}
    (raised : ∀ error, computed = .error error → error.Raised mayRefer) :
    Confined start mayRefer (Decoder.ofExcept computed) := by
  cases computed with
  | ok value => exact done value
  | error error =>
      have errorRaised := raised error rfl
      exact abort error

instance boundedUnsigned (structureName name : String) (limit : Nat) :
    Confined start mayRefer (Decoder.boundedUnsigned structureName name limit) :=
  bind _ _

instance whenElse (condition : Bool) (absent : α) (part : Decoder α)
    [Confined start mayRefer part] :
    Confined start mayRefer (Decoder.whenElse condition absent part) :=
  ite _ _ _

instance optional (condition : Bool) (part : Decoder α) [Confined start mayRefer part] :
    Confined start mayRefer (Decoder.optional condition part) :=
  ite _ _ _

/-- A part behind the flag that says whether it is there. Met as one step, it keeps the search for
the instance of a grammar with many such parts short. -/
instance optionalBehindFlag (part : Decoder β) (next : Option β → Decoder α)
    [Confined start mayRefer part] [∀ value, Confined start mayRefer (next value)] :
    Confined start mayRefer
      (Decoder.flag >>= fun isThere => Decoder.optional isThere part >>= next) :=
  monadBind _ _

instance foldFrom (step : Nat → α → Decoder α)
    [∀ index state, Confined start mayRefer (step index state)] (count index : Nat) (state : α) :
    Confined start mayRefer (Decoder.foldFrom step count index state) := by
  induction count generalizing index state with
  | zero => exact done state
  | succ count inductionHypothesis => exact bind (step index state) _

instance times (count : Nat) (item : Nat → Decoder α)
    [∀ index, Confined start mayRefer (item index)] :
    Confined start mayRefer (Decoder.times count item) :=
  bind _ _

instance replicate (count : Nat) (item : Decoder α) [Confined start mayRefer item] :
    Confined start mayRefer (Decoder.replicate count item) :=
  times count fun _ => item

instance eachOnto (item : α → Decoder β) [∀ key, Confined start mayRefer (item key)]
    (keys : List α) (values : List β) :
    Confined start mayRefer (Decoder.eachOnto item keys values) := by
  induction keys generalizing values with
  | nil => exact done values.reverse
  | cons key keys inductionHypothesis => exact bind (item key) _

instance each (keys : List α) (item : α → Decoder β)
    [∀ key, Confined start mayRefer (item key)] :
    Confined start mayRefer (Decoder.each keys item) :=
  eachOnto item keys []

/-! ### Fields of unit headers -/

/-- A number that is located at a bit which the source has reached, and what follows behind its
bits. -/
theorem bitsAt {structureName : String} {offset count : Nat} {next : Nat → Decoder α}
    (isReached : offset ≤ start) (fits : count ≤ 32)
    (nextConfined : ∀ value, Confined (start + count) mayRefer (next value)) :
    Confined start mayRefer
      ((Decoder.locatedAt structureName offset (Decoder.bits count)).bind next) := by
  have field : Confined start mayRefer (Decoder.bits count) := ask fits
  have reached : ∀ bit ∈ some offset, bit ≤ start := by simpa using isReached
  refine (within structureName _ reached).onward (Yields.trivial _) (fun unit => ?_)
    fun value _ => nextConfined value
  refine Ensures.within (Ensures.ask fun reader last value stands read => ?_)
  obtain ⟨taken, take_eq, _⟩ := Reader.take_of_readBits read
  obtain ⟨valid, moved⟩ := stands.take take_eq
  exact ⟨valid, moved ▸ Nat.add_le_add_right stands.start_le count⟩

/-- A flag that is located at a bit which the source has reached, and what follows behind it. -/
theorem flagAt {structureName : String} {offset : Nat} {next : Bool → Decoder α}
    (isReached : offset ≤ start)
    (nextConfined : ∀ value, Confined (start + 1) mayRefer (next value)) :
    Confined start mayRefer
      ((Decoder.locatedAt structureName offset Decoder.flag).bind next) := by
  have reached : ∀ bit ∈ some offset, bit ≤ start := by simpa using isReached
  refine (within structureName _ reached).onward (Yields.trivial _) (fun unit => ?_)
    fun value _ => nextConfined value
  refine Ensures.within (Ensures.flag fun reader last value stands next_eq => ?_)
  refine ⟨stands.toValidIn.next next_eq, ?_⟩
  rw [stands.position_next next_eq]
  exact Nat.succ_le_succ stands.start_le

end Confined

end Decoder

end CodedVideo
