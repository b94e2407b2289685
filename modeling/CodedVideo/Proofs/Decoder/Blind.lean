import CodedVideo.Proofs.Decoder.InStep

/-!
# Decoders that never look ahead

A decoder is blind if no question of it looks ahead. Descriptions that are composed of blind ones
are blind, so instance search finds it for a whole grammar, once it has been told of the grammar's
parts.
-/

namespace CodedVideo.Decoder

/-- No question of the decoder looks ahead. -/
class Blind {α : Type} (decoder : Decoder α) : Prop where
  neverLooksAhead : decoder.NeverLooksAhead

namespace Blind

variable {α β : Type}

/-! ## Single reads -/

instance done (value : α) : Blind (Decoder.done value) := ⟨trivial⟩

instance pure (value : α) : Blind (Pure.pure value : Decoder α) := ⟨trivial⟩

instance abort (error : Error) : Blind (Decoder.abort error : Decoder α) := ⟨trivial⟩

instance bits (count : Nat) : Blind (Decoder.bits count) := ⟨rfl, fun _ => trivial⟩

instance wideBits (count : Nat) : Blind (Decoder.wideBits count) := ⟨rfl, fun _ => trivial⟩

instance flag : Blind Decoder.flag := ⟨rfl, fun _ => trivial⟩

instance unsigned : Blind Decoder.unsigned := ⟨rfl, fun _ => trivial⟩

instance signed : Blind Decoder.signed := ⟨rfl, fun _ => trivial⟩

instance align : Blind Decoder.align := ⟨rfl, fun _ => trivial⟩

instance position : Blind Decoder.position := ⟨rfl, fun _ => trivial⟩

/-! ## Sequencing -/

/-- A sequence is blind if its parts are. -/
theorem sequence {first : Decoder β} {next : β → Decoder α} (firstBlind : Blind first)
    (nextBlind : ∀ value, Blind (next value)) : Blind (first.bind next) := by
  constructor
  replace firstBlind := firstBlind.neverLooksAhead
  induction first with
  | done value => exact (nextBlind value).neverLooksAhead
  | abort error => trivial
  | ask query rest inductionHypothesis =>
      exact ⟨firstBlind.1, fun answer => inductionHypothesis answer nextBlind (firstBlind.2 answer)⟩
  | within structureName offset part rest _ inductionHypothesis =>
      exact ⟨firstBlind.1, fun value => inductionHypothesis value nextBlind (firstBlind.2 value)⟩
  | series entry rest _ inductionHypothesis =>
      exact ⟨firstBlind.1, fun values => inductionHypothesis values nextBlind (firstBlind.2 values)⟩

instance bind (first : Decoder β) (next : β → Decoder α) [firstBlind : Blind first]
    [nextBlind : ∀ value, Blind (next value)] : Blind (first.bind next) :=
  sequence firstBlind nextBlind

instance monadBind (first : Decoder β) (next : β → Decoder α) [firstBlind : Blind first]
    [nextBlind : ∀ value, Blind (next value)] : Blind (first >>= next) :=
  sequence firstBlind nextBlind

/-! ## Composite forms -/

instance ite (condition : Prop) [Decidable condition] (first second : Decoder α) [Blind first]
    [Blind second] : Blind (if condition then first else second) := by
  split <;> infer_instance

instance within (structureName : String) (offset : Option Nat) (part : Decoder α)
    [partBlind : Blind part] : Blind (Decoder.within structureName offset part Decoder.done) :=
  ⟨partBlind.neverLooksAhead, fun _ => trivial⟩

instance located (structureName : String) (part : Decoder α) [Blind part] :
    Blind (Decoder.located structureName part) :=
  within structureName none part

instance locatedAt (structureName : String) (offset : Nat) (part : Decoder α) [Blind part] :
    Blind (Decoder.locatedAt structureName offset part) :=
  within structureName (some offset) part

instance seriesOf (entry : Nat → Decoder (Option β)) [entryBlind : ∀ code, Blind (entry code)] :
    Blind (Decoder.seriesOf entry) :=
  ⟨fun code => (entryBlind code).neverLooksAhead, fun _ => trivial⟩

instance require (condition : Bool) (error : Error) : Blind (Decoder.require condition error) :=
  ite _ _ _

instance ofExcept (computed : Except Error α) : Blind (Decoder.ofExcept computed) := by
  cases computed with
  | ok value => exact done value
  | error error => exact abort error

instance boundedUnsigned (structureName name : String) (limit : Nat) :
    Blind (Decoder.boundedUnsigned structureName name limit) :=
  bind _ _

instance whenElse (condition : Bool) (absent : α) (part : Decoder α) [Blind part] :
    Blind (Decoder.whenElse condition absent part) :=
  ite _ _ _

instance optional (condition : Bool) (part : Decoder α) [Blind part] :
    Blind (Decoder.optional condition part) :=
  ite _ _ _

/-- A part behind the flag that says whether it is there. Met as one step, it keeps the search for
the instance of a grammar with many such parts short. -/
instance optionalBehindFlag (part : Decoder β) (next : Option β → Decoder α) [Blind part]
    [∀ value, Blind (next value)] :
    Blind (Decoder.flag >>= fun isThere => Decoder.optional isThere part >>= next) :=
  monadBind _ _

instance foldFrom (step : Nat → α → Decoder α) [∀ index state, Blind (step index state)]
    (count index : Nat) (state : α) : Blind (Decoder.foldFrom step count index state) := by
  induction count generalizing index state with
  | zero => exact done state
  | succ count inductionHypothesis => exact bind (step index state) _

instance times (count : Nat) (item : Nat → Decoder α) [∀ index, Blind (item index)] :
    Blind (Decoder.times count item) :=
  bind _ _

instance replicate (count : Nat) (item : Decoder α) [Blind item] :
    Blind (Decoder.replicate count item) :=
  times count fun _ => item

instance eachOnto (item : α → Decoder β) [∀ key, Blind (item key)] (keys : List α)
    (values : List β) : Blind (Decoder.eachOnto item keys values) := by
  induction keys generalizing values with
  | nil => exact done values.reverse
  | cons key keys inductionHypothesis => exact bind (item key) _

instance each (keys : List α) (item : α → Decoder β) [∀ key, Blind (item key)] :
    Blind (Decoder.each keys item) :=
  eachOnto item keys []

end Blind

end CodedVideo.Decoder
