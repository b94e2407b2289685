import CodedVideo.Bits.Reader

/-!
# Decoders

A decoder is the description of a grammar: which read comes next, and what to do with its value.
It does not know where its bits come from. Reading it from plain bytes and from an escaped unit are
two runs of one and the same description, so what holds of every description holds of every
grammar.

Besides single reads a description has two forms of its own. `within` attributes reader faults to a
syntax structure. `series` is a list whose end is coded in band: each entry opens with an unsigned
code, which may say that the list ends here.
-/

namespace CodedVideo

/-- A question to a reader, indexed by the type of its answer. -/
inductive Query : Type → Type where
  /-- A number of at most 32 bits. -/
  | bits (count : Nat) : Query Nat
  /-- A number of at most 64 bits. -/
  | wideBits (count : Nat) : Query Nat
  /-- One bit. -/
  | flag : Query Bool
  /-- An unsigned Exp-Golomb code. -/
  | unsigned : Query Nat
  /-- A signed Exp-Golomb code. -/
  | signed : Query Int
  /-- Pass over bits. -/
  | skip (count : Nat) : Query Unit
  /-- Pass over the bits up to the next byte boundary. -/
  | align : Query Unit
  /-- The number of bits read so far. -/
  | position : Query Nat
  /-- Whether data remains in front of the trailing bits. -/
  | hasMoreData : Query Bool
  /-- The trailing bits up to the end. -/
  | trailingBits : Query Unit

/-- A description of how to decode a value. -/
inductive Decoder : Type → Type 1 where
  /-- The value is known. -/
  | done {α : Type} (value : α) : Decoder α
  /-- The data breaks a rule. -/
  | abort {α : Type} (error : Error) : Decoder α
  /-- A read, and what follows for each answer. -/
  | ask {α β : Type} (query : Query β) (next : β → Decoder α) : Decoder α
  /-- A part whose reader faults belong to a syntax structure, at a fixed bit or at the bit where
  the part stopped, and what follows for each value of the part. -/
  | within {α β : Type} (structureName : String) (offset : Option Nat) (part : Decoder β)
      (next : β → Decoder α) : Decoder α
  /-- Entries that each open with an unsigned code, up to the one that gives no value, and what
  follows for each list of values. -/
  | series {α β : Type} (entry : Nat → Decoder (Option β)) (next : List β → Decoder α) : Decoder α

namespace Decoder

/-! ## Sequencing -/

/-- Carries on with what follows for the decoded value. -/
def bind {α β : Type} : Decoder α → (α → Decoder β) → Decoder β
  | done value, next => next value
  | abort error, _ => abort error
  | ask query rest, next => ask query fun answer => (rest answer).bind next
  | within structureName offset part rest, next =>
      within structureName offset part fun value => (rest value).bind next
  | series entry rest, next => series entry fun values => (rest values).bind next

instance : Monad Decoder where
  pure := done
  bind := bind

/-! ## Single reads -/

/-- A number of `count` bits, at most 32. -/
def bits (count : Nat) : Decoder Nat := ask (.bits count) done

/-- A number of `count` bits, at most 64. -/
def wideBits (count : Nat) : Decoder Nat := ask (.wideBits count) done

/-- One bit. -/
def flag : Decoder Bool := ask .flag done

/-- An unsigned Exp-Golomb code. -/
def unsigned : Decoder Nat := ask .unsigned done

/-- A signed Exp-Golomb code. -/
def signed : Decoder Int := ask .signed done

/-- Passes over bits. -/
def skip (count : Nat) : Decoder Unit := ask (.skip count) done

/-- Passes over the bits up to the next byte boundary. -/
def align : Decoder Unit := ask .align done

/-- The number of bits read so far. -/
def position : Decoder Nat := ask .position done

/-- Whether data remains in front of the trailing bits. -/
def hasMoreData : Decoder Bool := ask .hasMoreData done

/-- The trailing bits up to the end. -/
def trailingBits : Decoder Unit := ask .trailingBits done

/-! ## Composite forms -/

/-- Attributes the reader faults of a part to a syntax structure, at the bit where it stopped. -/
def located {α : Type} (structureName : String) (part : Decoder α) : Decoder α :=
  within structureName none part done

/-- Attributes the reader faults of a part to a syntax structure, at a fixed bit. -/
def locatedAt {α : Type} (structureName : String) (offset : Nat) (part : Decoder α) : Decoder α :=
  within structureName (some offset) part done

/-- Entries that each open with an unsigned code, up to the one that gives no value. -/
def seriesOf {β : Type} (entry : Nat → Decoder (Option β)) : Decoder (List β) :=
  series entry done

/-- Aborts unless a condition holds. -/
def require (condition : Bool) (error : Error) : Decoder Unit :=
  if condition then done () else abort error

/-- Goes on with a computed value, or aborts with the error of the computation. -/
def ofExcept {α : Type} : Except Error α → Decoder α
  | .ok value => done value
  | .error error => abort error

/-- An unsigned Exp-Golomb code of at most `limit`, the field `name` of a structure. -/
def boundedUnsigned (structureName name : String) (limit : Nat) : Decoder Nat :=
  unsigned.bind fun value =>
    if value ≤ limit then done value
    else abort (.malformed structureName s!"{name} {value} out of range")

/-- A part that is there only under a condition, and the value that stands for its absence. -/
def whenElse {α : Type} (condition : Bool) (absent : α) (part : Decoder α) : Decoder α :=
  if condition then part else done absent

/-- A part that is there only under a condition. -/
def optional {α : Type} (condition : Bool) (part : Decoder α) : Decoder (Option α) :=
  if condition then part.bind fun value => done (some value) else done none

/-- Runs `step` `count` times on an index that starts at `index`, passing a state on. -/
def foldFrom {α : Type} (step : Nat → α → Decoder α) : Nat → Nat → α → Decoder α
  | 0, _, state => done state
  | count + 1, index, state =>
      (step index state).bind fun state => foldFrom step count (index + 1) state

/-- Decodes `count` items, each knowing its index. -/
def times {α : Type} (count : Nat) (item : Nat → Decoder α) : Decoder (List α) :=
  (foldFrom (fun index items => (item index).bind fun value => done (value :: items))
    count 0 []).bind fun items => done items.reverse

/-- Decodes `count` items of one kind. -/
def replicate {α : Type} (count : Nat) (item : Decoder α) : Decoder (List α) :=
  times count fun _ => item

/-- Decodes one value after another, each knowing a value of `keys`. -/
def eachOnto {α β : Type} (item : α → Decoder β) : List α → List β → Decoder (List β)
  | [], values => done values.reverse
  | key :: keys, values => (item key).bind fun value => eachOnto item keys (value :: values)

/-- Decodes a value for each element of a list. -/
def each {α β : Type} (keys : List α) (item : α → Decoder β) : Decoder (List β) :=
  eachOnto item keys []

end Decoder

end CodedVideo
