import CodedVideo.Proofs.Decoder.Reports

/-!
# Decoders that know no limit

Limits are those of a store. A grammar finds fault with its data only: no error with which it fails
says that a limit is reached. Descriptions that are composed of such parts are of that kind, so
instance search finds it for a whole grammar, once it has been told of the grammar's parts.
-/

namespace CodedVideo

/-- The error finds fault with the data: it does not say that a limit is reached. -/
class Error.InData (error : Error) : Prop where
  ne_exhausted : ∀ description, error ≠ .resourceExhausted description

namespace Error.InData

instance unlocated (fault : BitFault) : InData (.unlocated fault) :=
  ⟨fun _ => Error.noConfusion⟩

instance malformed (structureName description : String) :
    InData (.malformed structureName description) :=
  ⟨fun _ => Error.noConfusion⟩

instance missingReference (structureName kind : String) (id : Nat) :
    InData (.missingReference structureName kind id) :=
  ⟨fun _ => Error.noConfusion⟩

instance unsupported (structureName feature : String) :
    InData (.unsupported structureName feature) :=
  ⟨fun _ => Error.noConfusion⟩

instance wrongUnitType (structureName : String) (unitType : Nat) :
    InData (.wrongUnitType structureName unitType) :=
  malformed _ _

/-- An error that is attributed to a structure finds fault with the data as before. -/
theorem locate {error : Error} (inData : error.InData) (structureName : String) (bitOffset : Nat) :
    InData (error.locate structureName bitOffset) where
  ne_exhausted := by
    intro description
    cases error with
    | unlocated reason => cases reason <;> exact Error.noConfusion
    | resourceExhausted reason => exact absurd rfl (inData.ne_exhausted reason)
    | _ => exact Error.noConfusion

end Error.InData

namespace Decoder

/-- The decoder fails with no error but those that find fault with the data. -/
class Limitless {α : Type} (decoder : Decoder α) : Prop where
  inData : ∀ {σ : Type} [BitSource σ] (reader : Reader σ) (error : Error),
    (decoder.run reader).1 = .error error → error.InData

namespace Limitless

variable {α β : Type}

/-! ## Single reads -/

instance done (value : α) : Limitless (Decoder.done value) where
  inData _ _ failed := nomatch failed

instance pure (value : α) : Limitless (Pure.pure value : Decoder α) :=
  done value

instance abort (error : Error) [isInData : error.InData] :
    Limitless (Decoder.abort error : Decoder α) where
  inData _ _ failed := by
    cases failed
    exact isInData

/-- A read that fails does so with the fault of the reader. -/
theorem ask (query : Query α) : Limitless (Decoder.ask query Decoder.done) where
  inData reader error failed := by
    rw [run_ask] at failed
    rcases answer_eq : query.answer reader with ⟨fault | answer, rest⟩
    · rw [answer_eq] at failed
      cases failed
      exact Error.InData.unlocated fault
    · rw [answer_eq] at failed
      cases failed

instance bits (count : Nat) : Limitless (Decoder.bits count) := ask _

instance wideBits (count : Nat) : Limitless (Decoder.wideBits count) := ask _

instance flag : Limitless Decoder.flag := ask _

instance unsigned : Limitless Decoder.unsigned := ask _

instance signed : Limitless Decoder.signed := ask _

instance position : Limitless Decoder.position := ask _

instance trailingBits : Limitless Decoder.trailingBits := ask _

/-! ## Sequencing -/

/-- A sequence fails with no error but those of its parts. -/
theorem sequence {first : Decoder β} {next : β → Decoder α} (firstLimitless : Limitless first)
    (nextLimitless : ∀ value, Limitless (next value)) : Limitless (first.bind next) where
  inData reader error failed := by
    rcases error_of_run_bind failed with firstFailed | ⟨value, rest, -, nextFailed⟩
    · exact firstLimitless.inData reader error firstFailed
    · exact (nextLimitless value).inData rest error nextFailed

instance bind (first : Decoder β) (next : β → Decoder α) [firstLimitless : Limitless first]
    [nextLimitless : ∀ value, Limitless (next value)] : Limitless (first.bind next) :=
  sequence firstLimitless nextLimitless

instance monadBind (first : Decoder β) (next : β → Decoder α) [firstLimitless : Limitless first]
    [nextLimitless : ∀ value, Limitless (next value)] : Limitless (first >>= next) :=
  sequence firstLimitless nextLimitless

/-! ## Composite forms -/

instance ite (condition : Prop) [Decidable condition] (first second : Decoder α)
    [Limitless first] [Limitless second] : Limitless (if condition then first else second) := by
  split <;> infer_instance

instance within (structureName : String) (offset : Option Nat) (part : Decoder α)
    [partLimitless : Limitless part] :
    Limitless (Decoder.within structureName offset part Decoder.done) where
  inData reader error failed := by
    obtain ⟨inner, stopped, part_eq, rfl⟩ := error_of_run_within failed
    exact (partLimitless.inData reader inner (congrArg Prod.fst part_eq)).locate _ _

instance located (structureName : String) (part : Decoder α) [Limitless part] :
    Limitless (Decoder.located structureName part) :=
  within structureName none part

instance locatedAt (structureName : String) (offset : Nat) (part : Decoder α) [Limitless part] :
    Limitless (Decoder.locatedAt structureName offset part) :=
  within structureName (some offset) part

instance require (condition : Bool) (error : Error) [error.InData] :
    Limitless (Decoder.require condition error) :=
  ite _ _ _

/-- A computation fails with no error but its own. -/
theorem ofExcept {computed : Except Error α}
    (inData : ∀ error, computed = .error error → error.InData) :
    Limitless (Decoder.ofExcept computed) := by
  cases computed with
  | ok value => exact done value
  | error error =>
      have isInData := inData error rfl
      exact abort error

instance boundedUnsigned (structureName name : String) (limit : Nat) :
    Limitless (Decoder.boundedUnsigned structureName name limit) :=
  bind _ _

instance whenElse (condition : Bool) (absent : α) (part : Decoder α) [Limitless part] :
    Limitless (Decoder.whenElse condition absent part) :=
  ite _ _ _

instance optional (condition : Bool) (part : Decoder α) [Limitless part] :
    Limitless (Decoder.optional condition part) :=
  ite _ _ _

/-- A part behind the flag that says whether it is there. Met as one step, it keeps the search for
the instance of a grammar with many such parts short. -/
instance optionalBehindFlag (part : Decoder β) (next : Option β → Decoder α) [Limitless part]
    [∀ value, Limitless (next value)] :
    Limitless (Decoder.flag >>= fun isThere => Decoder.optional isThere part >>= next) :=
  monadBind _ _

instance foldFrom (step : Nat → α → Decoder α) [∀ index state, Limitless (step index state)]
    (count index : Nat) (state : α) : Limitless (Decoder.foldFrom step count index state) := by
  induction count generalizing index state with
  | zero => exact done state
  | succ count inductionHypothesis => exact bind (step index state) _

instance times (count : Nat) (item : Nat → Decoder α) [∀ index, Limitless (item index)] :
    Limitless (Decoder.times count item) :=
  bind _ _

instance replicate (count : Nat) (item : Decoder α) [Limitless item] :
    Limitless (Decoder.replicate count item) :=
  times count fun _ => item

instance eachOnto (item : α → Decoder β) [∀ key, Limitless (item key)] (keys : List α)
    (values : List β) : Limitless (Decoder.eachOnto item keys values) := by
  induction keys generalizing values with
  | nil => exact done values.reverse
  | cons key keys inductionHypothesis => exact bind (item key) _

instance each (keys : List α) (item : α → Decoder β) [∀ key, Limitless (item key)] :
    Limitless (Decoder.each keys item) :=
  eachOnto item keys []

end Limitless

/-! ## Units -/

/-- What a parser reports of a unit finds fault with the data if its grammar knows no limit. -/
theorem Reports.inData {α β : Type} {grammar : Decoder β} [isLimitless : Limitless grammar]
    {unit : List UInt8} {mayRefer : Prop} {result : Except Error α}
    (reports : grammar.Reports unit mayRefer result) {error : Error}
    (failed : result = .error error) : error.InData :=
  isLimitless.inData _ error ((reports.error_iff error).mp failed)

end Decoder

end CodedVideo
