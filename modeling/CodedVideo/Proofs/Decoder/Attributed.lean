import CodedVideo.Decoder.Laws

/-!
# Errors that name a structure

A whole grammar attributes each fault of its reader to a structure. It does so if every read stands
inside a part that is attributed to one, and if the grammar aborts with no other errors.
-/

namespace CodedVideo

/-- The error names a structure. -/
class Error.Attributed (error : Error) : Prop where
  ne_unlocated : ∀ fault, error ≠ .unlocated fault

namespace Error.Attributed

instance malformed (structureName description : String) :
    Attributed (.malformed structureName description) :=
  ⟨fun _ => Error.noConfusion⟩

instance unsupported (structureName feature : String) :
    Attributed (.unsupported structureName feature) :=
  ⟨fun _ => Error.noConfusion⟩

instance wrongUnitType (structureName : String) (unitType : Nat) :
    Attributed (.wrongUnitType structureName unitType) :=
  malformed _ _

/-- An error that is attributed to a structure names one. -/
instance locate (error : Error) (structureName : String) (bitOffset : Nat) :
    Attributed (error.locate structureName bitOffset) where
  ne_unlocated := by
    intro fault
    cases error with
    | unlocated reason => cases reason <;> exact Error.noConfusion
    | _ => exact Error.noConfusion

/-- An error that names a structure and says that the data ended too early is a truncation. -/
theorem exists_truncated {error : Error} (isAttributed : error.Attributed)
    (isEnd : error.isTruncation = true) : ∃ name offset, error = .truncated name offset := by
  cases error with
  | truncated name offset => exact ⟨name, offset, rfl⟩
  | unlocated fault => exact absurd rfl (isAttributed.ne_unlocated fault)
  | _ => contradiction

end Error.Attributed

namespace Decoder

/-- The decoder fails with no error but those that name a structure. -/
class Attributed {α : Type} (decoder : Decoder α) : Prop where
  attributed : ∀ {σ : Type} [BitSource σ] (reader : Reader σ) (error : Error),
    (decoder.run reader).1 = .error error → error.Attributed

namespace Attributed

variable {α β : Type}

instance done (value : α) : Attributed (Decoder.done value) where
  attributed _ _ failed := nomatch failed

instance pure (value : α) : Attributed (Pure.pure value : Decoder α) :=
  done value

instance abort (error : Error) [isAttributed : error.Attributed] :
    Attributed (Decoder.abort error : Decoder α) where
  attributed _ _ failed := by
    cases failed
    exact isAttributed

/-- A sequence fails with no error but those of its parts. -/
theorem sequence {first : Decoder β} {next : β → Decoder α} (firstAttributed : Attributed first)
    (nextAttributed : ∀ value, Attributed (next value)) : Attributed (first.bind next) where
  attributed reader error failed := by
    rcases error_of_run_bind failed with firstFailed | ⟨value, rest, -, nextFailed⟩
    · exact firstAttributed.attributed reader error firstFailed
    · exact (nextAttributed value).attributed rest error nextFailed

instance bind (first : Decoder β) (next : β → Decoder α) [firstAttributed : Attributed first]
    [nextAttributed : ∀ value, Attributed (next value)] : Attributed (first.bind next) :=
  sequence firstAttributed nextAttributed

instance monadBind (first : Decoder β) (next : β → Decoder α) [firstAttributed : Attributed first]
    [nextAttributed : ∀ value, Attributed (next value)] : Attributed (first >>= next) :=
  sequence firstAttributed nextAttributed

/-- Whatever fails in a part that is attributed to a structure names one. -/
instance within (structureName : String) (offset : Option Nat) (part : Decoder α) :
    Attributed (Decoder.within structureName offset part Decoder.done) where
  attributed reader error failed := by
    obtain ⟨inner, stopped, -, rfl⟩ := error_of_run_within failed
    infer_instance

instance located (structureName : String) (part : Decoder α) :
    Attributed (Decoder.located structureName part) :=
  within structureName none part

instance locatedAt (structureName : String) (offset : Nat) (part : Decoder α) :
    Attributed (Decoder.locatedAt structureName offset part) :=
  within structureName (some offset) part

instance ite (condition : Prop) [Decidable condition] (first second : Decoder α)
    [Attributed first] [Attributed second] :
    Attributed (if condition then first else second) := by
  split <;> infer_instance

instance require (condition : Bool) (error : Error) [error.Attributed] :
    Attributed (Decoder.require condition error) :=
  ite _ _ _

instance whenElse (condition : Bool) (absent : α) (part : Decoder α) [Attributed part] :
    Attributed (Decoder.whenElse condition absent part) :=
  ite _ _ _

end Attributed

end Decoder

end CodedVideo
