import CodedVideo.Decoder.Laws
import CodedVideo.Proofs.Bits.Strings
import CodedVideo.Proofs.Decoder.InStep
import Mathlib.Data.List.Forall2

/-!
# What decoders yield

A decoder yields a condition if each value that it gives, from whatever reader, meets the condition.
A decoder mirrors another one if it gives the same values in another form, and fails where the other
one fails. A part needs to be mirrored only for the values that the parts in front of it yield.

Main statements: the rules `Yields.bind` and `Mirrors.bind` for sequences.
-/

namespace CodedVideo.Decoder

variable {α β : Type}

/-- Every value that a run of the decoder gives meets the condition. -/
structure Yields (decoder : Decoder α) (condition : α → Prop) : Prop where
  of_run : ∀ {σ : Type} [BitSource σ] (reader last : Reader σ) (value : α),
    decoder.run reader = (.ok value, last) → condition value

/-- Each run of the mirror gives what a run of the decoder gives, in another form or with the same
error, and leaves the same reader. -/
structure Mirrors {γ : Type} (form : α → γ) (mirror : Decoder γ) (decoder : Decoder α) : Prop where
  run_eq : ∀ {σ : Type} [BitSource σ] (reader : Reader σ),
    mirror.run reader = ((decoder.run reader).1.map form, (decoder.run reader).2)

/-! ## Conditions on values -/

namespace Yields

variable {condition weaker : α → Prop} {middle : β → Prop}

theorem trivial (decoder : Decoder α) : Yields decoder fun _ => True :=
  ⟨fun _ _ _ _ => True.intro⟩

theorem done {value : α} (holds : condition value) : Yields (Decoder.done value) condition := by
  constructor
  intro σ _ reader last result run_eq
  cases run_eq
  exact holds

theorem abort {error : Error} : Yields (Decoder.abort error) condition := by
  constructor
  intro σ _ reader last result run_eq
  cases run_eq

/-- Behind a requirement its condition holds. -/
theorem require {isMet : Bool} {error : Error} :
    Yields (Decoder.require isMet error) fun _ => isMet = true := by
  cases isMet with
  | true => exact done rfl
  | false => exact abort

theorem weaken {decoder : Decoder α} (yields : Yields decoder condition)
    (weakens : ∀ value, condition value → weaker value) : Yields decoder weaker :=
  ⟨fun reader last value run_eq => weakens value (yields.of_run reader last value run_eq)⟩

/-- What is yielded twice holds together. -/
theorem and {decoder : Decoder α} {other : α → Prop} (yields : Yields decoder condition)
    (others : Yields decoder other) : Yields decoder fun value => condition value ∧ other value :=
  ⟨fun reader last value run_eq =>
    ⟨yields.of_run reader last value run_eq, others.of_run reader last value run_eq⟩⟩

/-- A single read yields what every answer to it meets. -/
theorem ask {query : Query α}
    (answers : ∀ {σ : Type} [BitSource σ] {reader last : Reader σ} {value : α},
      query.answer reader = (.ok value, last) → condition value) :
    Yields (Decoder.ask query Decoder.done) condition := by
  constructor
  intro σ _ reader last value run_eq
  rw [run_ask] at run_eq
  rcases answer_eq : query.answer reader with ⟨fault | answer, rest⟩
  · rw [answer_eq] at run_eq
    cases run_eq
  · rw [answer_eq] at run_eq
    cases run_eq
    exact answers answer_eq

/-- A number that is read fits its width. -/
theorem lt_of_readBits {σ : Type} [BitSource σ] {count value : Nat} {reader last : Reader σ}
    (read : Reader.readBits count reader = (.ok value, last)) : value < 1 <<< count := by
  obtain ⟨taken, take_eq, rfl⟩ := Reader.take_of_readBits read
  have below := Bits.toNat_lt taken
  rwa [BitSource.length_of_take take_eq] at below

theorem bits (count : Nat) : Yields (Decoder.bits count) (· < 1 <<< count) :=
  ask lt_of_readBits

/-- A number that is read in up to two parts fits its width. -/
theorem wideBits (count : Nat) : Yields (Decoder.wideBits count) (· < 1 <<< count) := by
  refine ask fun {σ} _ reader last value answer_eq => ?_
  rw [Query.answer, Reader.readWideBits] at answer_eq
  split at answer_eq
  · cases answer_eq
  · split at answer_eq
    · exact lt_of_readBits answer_eq
    · next isWide =>
        obtain ⟨high, middle, highRead, behind⟩ := Reader.bind_eq_ok answer_eq
        obtain ⟨low, rest, lowRead, joined⟩ := Reader.bind_eq_ok behind
        cases joined
        have high_lt := lt_of_readBits highRead
        have low_lt := lt_of_readBits lowRead
        have width_eq : count - 32 + 32 = count := Nat.sub_add_cancel (by omega)
        rw [← width_eq, Nat.shiftLeft_add]
        simp only [Nat.shiftLeft_eq] at high_lt low_lt ⊢
        omega

/-- The value of an unsigned code fits 32 bits. -/
theorem unsigned : Yields Decoder.unsigned (· < ExpGolomb.unsignedLimit) := by
  refine ask fun {σ} _ reader last value answer_eq => ?_
  obtain ⟨number, rest, _, valueRead⟩ := Reader.bind_eq_ok answer_eq
  split at valueRead
  · next isBelow =>
      cases valueRead
      exact isBelow
  · cases valueRead

/-- A sequence yields what its second part does for each value that the first part yields. -/
theorem bind {first : Decoder β} {next : β → Decoder α} (yields : Yields first middle)
    (nexts : ∀ value, middle value → Yields (next value) condition) :
    Yields (first.bind next) condition := by
  constructor
  intro σ _ reader last result run_eq
  obtain ⟨value, rest, first_eq, next_eq⟩ := ok_of_run_bind run_eq
  have follows := nexts value (yields.of_run reader rest value first_eq)
  exact follows.of_run rest last result next_eq

/-- A sequence yields what its second part does for every value of the first part. -/
theorem behind {first : Decoder β} {next : β → Decoder α}
    (nexts : ∀ value, Yields (next value) condition) : Yields (first.bind next) condition :=
  bind (trivial first) fun value _ => nexts value

/-- Naming the structure of a part changes nothing of what it yields. -/
theorem within {structureName : String} {offset : Option Nat} {part : Decoder α}
    (yields : Yields part condition) :
    Yields (Decoder.within structureName offset part Decoder.done) condition := by
  constructor
  intro σ _ reader last result run_eq
  exact yields.of_run reader last result (ok_of_run_within run_eq)

theorem whenElse {isThere : Bool} {absent : α} {part : Decoder α} (yields : Yields part condition)
    (holds : condition absent) : Yields (Decoder.whenElse isThere absent part) condition := by
  cases isThere with
  | true => exact yields
  | false => exact done holds

/-- Where a part is there, its value meets the condition, and otherwise it is the one that stands for
its absence. -/
theorem whenElse_cases {isThere : Bool} {absent : α} {part : Decoder α}
    (yields : Yields part condition) :
    Yields (Decoder.whenElse isThere absent part) fun value =>
      (isThere = true → condition value) ∧ (isThere = false → value = absent) := by
  cases isThere with
  | true => exact yields.weaken fun _ holds => ⟨fun _ => holds, nofun⟩
  | false => exact done ⟨nofun, fun _ => rfl⟩

theorem whenElse_absent {isThere : Bool} {absent : α} {part : Decoder α} :
    Yields (Decoder.whenElse isThere absent part) fun value => isThere = false → value = absent :=
  (whenElse_cases (trivial part)).weaken fun _ holds => holds.2

theorem optional {isThere : Bool} {part : Decoder α} (yields : Yields part condition) :
    Yields (Decoder.optional isThere part) fun value? =>
      ∀ value, value? = some value → condition value := by
  cases isThere with
  | true =>
      refine bind yields fun value holds => done ?_
      rintro _ ⟨⟩
      exact holds
  | false => exact done nofun

/-- An optional part gives a value where it is there. -/
theorem optional_isSome {isThere : Bool} {part : Decoder α} :
    Yields (Decoder.optional isThere part) fun value? => value?.isSome = isThere := by
  cases isThere with
  | true => exact behind fun _ => done rfl
  | false => exact done rfl

/-- A number that is bounded is within its bound. -/
theorem boundedUnsigned {structureName name : String} {limit : Nat} :
    Yields (Decoder.boundedUnsigned structureName name limit) (· ≤ limit) := by
  refine behind fun value => ?_
  split
  · next inRange => exact done inRange
  · exact abort

/-- Steps that each carry an invariant of the index and the state on carry it to the end. -/
theorem foldFrom {step : Nat → α → Decoder α} (invariant : Nat → α → Prop) {count index : Nat}
    {state : α}
    (steps : ∀ place state, place < index + count → invariant place state →
      Yields (step place state) (invariant (place + 1)))
    (holds : invariant index state) :
    Yields (Decoder.foldFrom step count index state) (invariant (index + count)) := by
  induction count generalizing index state with
  | zero => exact done holds
  | succ count inductionHypothesis =>
      have started := steps index state (by omega) holds
      have sum_eq : index + (count + 1) = index + 1 + count := by omega
      rw [sum_eq] at steps ⊢
      exact bind started fun next carried => inductionHypothesis steps carried

/-- As many items are decoded as are asked for, and each is as one alone. -/
theorem replicate_all (count : Nat) {item : Decoder α} (yields : Yields item condition) :
    Yields (Decoder.replicate count item) fun values =>
      values.length = count ∧ ∀ value ∈ values, condition value := by
  have folded : Yields (Decoder.foldFrom (fun _ items => item.bind fun value =>
      Decoder.done (value :: items)) count 0 [])
      fun items => items.length = 0 + count ∧ ∀ value ∈ items, condition value := by
    refine foldFrom (fun index (items : List α) =>
      items.length = index ∧ ∀ value ∈ items, condition value) ?_ ⟨rfl, List.forall_mem_nil _⟩
    intro _ items _ ⟨length_eq, hold⟩
    refine bind yields fun value holds => done ⟨congrArg Nat.succ length_eq, ?_⟩
    exact List.forall_mem_cons.mpr ⟨holds, hold⟩
  refine bind folded fun items ⟨length_eq, hold⟩ => done ⟨?_, ?_⟩
  · rw [List.length_reverse, length_eq, Nat.zero_add]
  · exact fun value isValue => hold value (List.mem_reverse.mp isValue)

/-- As many items are decoded as are asked for. -/
theorem replicate (count : Nat) (item : Decoder α) :
    Yields (Decoder.replicate count item) (·.length = count) :=
  (replicate_all count (trivial item)).weaken fun _ holds => holds.1

/-- Values that are decoded one after another each stand to their key as one alone does. -/
theorem eachOnto {item : β → Decoder α} {related : β → α → Prop}
    (items : ∀ key, Yields (item key) (related key)) (keys front : List β) (values : List α)
    (holds : List.Forall₂ related front values.reverse) :
    Yields (Decoder.eachOnto item keys values) (List.Forall₂ related (front ++ keys)) := by
  induction keys generalizing front values with
  | nil =>
      rw [List.append_nil]
      exact done holds
  | cons key keys inductionHypothesis =>
      refine bind (items key) fun value isRelated => ?_
      have grown : List.Forall₂ related (front ++ [key]) (value :: values).reverse := by
        rw [List.reverse_cons]
        exact List.rel_append holds (.cons isRelated .nil)
      have yields := inductionHypothesis (front ++ [key]) (value :: values) grown
      rwa [List.append_assoc] at yields

theorem each {item : β → Decoder α} {related : β → α → Prop}
    (items : ∀ key, Yields (item key) (related key)) (keys : List β) :
    Yields (Decoder.each keys item) (List.Forall₂ related keys) :=
  eachOnto items keys [] [] .nil

/-- Values that are decoded one after another each meet what the decoder of their key yields, and
there are as many as keys. -/
theorem eachOnto_all {item : β → Decoder α} {keys : List β} {values : List α}
    (items : ∀ key ∈ keys, Yields (item key) condition)
    (hold : ∀ value ∈ values, condition value) :
    Yields (Decoder.eachOnto item keys values) fun all =>
      all.length = values.length + keys.length ∧ ∀ value ∈ all, condition value := by
  induction keys generalizing values with
  | nil =>
      refine done ⟨List.length_reverse, ?_⟩
      exact fun value isValue => hold value (List.mem_reverse.mp isValue)
  | cons key keys inductionHypothesis =>
      rw [List.forall_mem_cons] at items
      refine bind items.1 fun value holds => ?_
      have yields := inductionHypothesis items.2 (List.forall_mem_cons.mpr ⟨holds, hold⟩)
      rwa [List.length_cons, Nat.add_right_comm] at yields

theorem each_all {item : β → Decoder α} {keys : List β}
    (items : ∀ key ∈ keys, Yields (item key) condition) :
    Yields (Decoder.each keys item) fun values =>
      values.length = keys.length ∧ ∀ value ∈ values, condition value := by
  have yields := eachOnto_all items (List.forall_mem_nil _)
  rwa [List.length_nil, Nat.zero_add] at yields

/-! ### Units -/

theorem of_decodeUnit {decoder : Decoder α} (yields : Yields decoder condition) {unit : List UInt8}
    {value : α} (isDecoded : decoder.decodeUnit unit = .ok value) : condition value := by
  rw [decodeUnit] at isDecoded
  rcases run_eq : decoder.run (EscapedReader.ofUnit unit) with ⟨result, last⟩
  rw [run_eq] at isDecoded
  cases isDecoded
  exact yields.of_run _ _ _ run_eq

/-- What is kept of a unit meets the condition also where decoding stopped on purpose. -/
theorem of_keepDecoded {decoder : Decoder (α × Option Error)}
    (yields : Yields decoder fun result => condition result.1) {unit : List UInt8} {value : α}
    (isDecoded : Interruption.keepDecoded (decoder.decodeUnitPartly unit) = .ok value) :
    condition value := by
  rw [decodeUnitPartly] at isDecoded
  rcases decode_eq : decoder.decodeUnit unit with error | ⟨decoded, _ | error⟩
  · rw [decode_eq] at isDecoded
    cases isDecoded
  · rw [decode_eq] at isDecoded
    cases isDecoded
    exact yields.of_decodeUnit decode_eq
  · rw [decode_eq] at isDecoded
    simp only [Interruption.stopped] at isDecoded
    split at isDecoded
    · cases isDecoded
      exact yields.of_decodeUnit decode_eq
    · cases isDecoded

end Yields

/-! ## Mirrors -/

namespace Mirrors

variable {γ δ : Type} {form : α → γ}

theorem refl (decoder : Decoder α) : Mirrors id decoder decoder := by
  constructor
  intro σ _ reader
  rcases decoder.run reader with ⟨error | value, last⟩
  · rfl
  · rfl

theorem done (value : α) : Mirrors form (Decoder.done (form value)) (Decoder.done value) :=
  ⟨fun _ => rfl⟩

theorem abort (error : Error) : Mirrors form (Decoder.abort error) (Decoder.abort error) :=
  ⟨fun _ => rfl⟩

/-- A sequence is mirrored part by part; the second part need only be mirrored for the values that
the first part yields. -/
theorem bind {middleForm : β → δ} {middle : β → Prop} {first : Decoder β} {firstMirror : Decoder δ}
    {next : β → Decoder α} {nextMirror : δ → Decoder γ}
    (mirrors : Mirrors middleForm firstMirror first) (yields : Yields first middle)
    (nexts : ∀ value, middle value → Mirrors form (nextMirror (middleForm value)) (next value)) :
    Mirrors form (firstMirror.bind nextMirror) (first.bind next) := by
  constructor
  intro σ _ reader
  rw [run_bind, run_bind, mirrors.run_eq reader]
  rcases first_eq : first.run reader with ⟨error | value, rest⟩
  · rfl
  · exact (nexts value (yields.of_run reader rest value first_eq)).run_eq rest

/-- Behind a part that both have, each value is mirrored that the part yields. -/
theorem behind_yields {middle : β → Prop} {first : Decoder β} {next : β → Decoder α}
    {nextMirror : β → Decoder γ} (yields : Yields first middle)
    (nexts : ∀ value, middle value → Mirrors form (nextMirror value) (next value)) :
    Mirrors form (first.bind nextMirror) (first.bind next) :=
  bind (refl first) yields nexts

/-- Behind a part that both have, each value is mirrored. -/
theorem behind {first : Decoder β} {next : β → Decoder α} {nextMirror : β → Decoder γ}
    (nexts : ∀ value, Mirrors form (nextMirror value) (next value)) :
    Mirrors form (first.bind nextMirror) (first.bind next) :=
  behind_yields (Yields.trivial first) fun value _ => nexts value

theorem within {structureName : String} {offset : Option Nat} {part : Decoder α}
    {partMirror : Decoder γ} (mirrors : Mirrors form partMirror part) :
    Mirrors form (Decoder.within structureName offset partMirror Decoder.done)
      (Decoder.within structureName offset part Decoder.done) := by
  constructor
  intro σ _ reader
  rw [run_within, run_within, mirrors.run_eq reader]
  rcases part.run reader with ⟨error | value, rest⟩
  · rfl
  · rfl

/-- Steps are mirrored one by one, for the states that an invariant allows. -/
theorem foldFrom {step : Nat → α → Decoder α} {stepMirror : Nat → γ → Decoder γ}
    (invariant : Nat → α → Prop) {count index : Nat} (state : α)
    (yields : ∀ place state, place < index + count → invariant place state →
      Yields (step place state) (invariant (place + 1)))
    (mirrors : ∀ place state, place < index + count → invariant place state →
      Mirrors form (stepMirror place (form state)) (step place state))
    (holds : invariant index state) :
    Mirrors form (Decoder.foldFrom stepMirror count index (form state))
      (Decoder.foldFrom step count index state) := by
  induction count generalizing index state with
  | zero => exact done state
  | succ count inductionHypothesis =>
      have started := yields index state (by omega) holds
      have startMirrored := mirrors index state (by omega) holds
      rw [show index + (count + 1) = index + 1 + count by omega] at yields mirrors
      exact bind startMirrored started fun next carried =>
        inductionHypothesis next yields mirrors carried

end Mirrors

end CodedVideo.Decoder
