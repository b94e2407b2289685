import CodedVideo.Bits.Words
import CodedVideo.Proofs.Bits.Session
import CodedVideo.Proofs.Bits.SinksInStep
import CodedVideo.Proofs.Decoder.InStep

/-!
# Bits and words

A source of bits is kept in words if at each of its places words hand out its bits, a bit or a block
at a time, and then stand where it stands. All that is read from bits is then read from the words,
with the same faults, and leaves them where it leaves the bits. Sinks are kept in words alike.

Main statements: `SourceInWords.session_eq` and `SinkInWords.session_eq`.
-/

namespace CodedVideo

variable {σ τ : Type}

/-- `words` keeps a source or sink in a state in which `valid` holds. -/
def KeptBy (valid : τ → Prop) (words : τ → σ) (first : σ) (second : τ) : Prop :=
  valid second ∧ first = words second

/-! ## Sources -/

/-- At each place at which `valid` holds, `words` hands out what the source hands out. -/
structure SourceInWords [BitSource σ] [BlockSource σ] [BitSource τ] (valid : τ → Prop)
    (words : τ → σ) : Prop where
  valid_next : ∀ {source rest : τ} {bit : Bool}, valid source →
    BitSource.next source = some (bit, rest) → valid rest
  position_eq : ∀ {source : τ}, valid source →
    BitSource.position (words source) = BitSource.position source
  next_eq : ∀ {source : τ}, valid source →
    BitSource.next (words source) =
      (BitSource.next source).map fun step => (step.1, words step.2)
  takeBlock_eq : ∀ {source : τ}, valid source → ∀ {width : UInt8}, width.toNat ≤ 32 →
    BlockSource.takeBlock width (words source) =
      (BitSource.take width.toNat source).map fun step =>
        (UInt32.ofNat (Bits.toNat step.1), words step.2)

namespace Reader

/-- The reader in words at the place of a reader, with its fault. -/
def inWords (words : τ → σ) (reader : Reader τ) : Reader σ where
  source := words reader.source
  fault := reader.fault

variable {valid : τ → Prop} {words : τ → σ} {reader : Reader τ}

theorem keptBy_inWords (isValid : valid reader.source) :
    ReadersRelated (KeptBy valid words) (reader.inWords words) reader where
  sources := ⟨isValid, rfl⟩
  fault_eq := rfl

/-- A reader whose source is kept in words is the reader in words. -/
theorem eq_inWords {first : Reader σ}
    (readers : ReadersRelated (KeptBy valid words) first reader) : first = reader.inWords words := by
  rcases first with ⟨source, fault⟩
  rcases readers with ⟨⟨_, rfl⟩, rfl⟩
  rfl

end Reader

namespace SourceInWords

variable [BitSource σ] [BlockSource σ] [BitSource τ] {valid : τ → Prop} {words : τ → σ}
  (inWords : SourceInWords valid words)

include inWords

theorem inStep : InStep False (KeptBy valid words) where
  position_eq := by
    rintro first second ⟨isValid, rfl⟩
    exact inWords.position_eq isValid
  next_related := by
    rintro first second ⟨isValid, rfl⟩
    rw [inWords.next_eq isValid]
    cases next_eq : BitSource.next second with
    | none => exact Or.inl ⟨rfl, Or.inr rfl⟩
    | some step =>
        obtain ⟨bit, rest⟩ := step
        exact Or.inr ⟨bit, words rest, rest, rfl, rfl, inWords.valid_next isValid next_eq, rfl⟩

variable {reader : Reader τ} (isValid : valid reader.source)

include isValid

/-- A block is read as its bits are: a fault leaves the reader in its place. -/
theorem readBlock_eq (width : UInt8) :
    Reader.readBlock width (reader.inWords words) =
      ((Reader.readBits width.toNat reader).1.map UInt32.ofNat,
        (Reader.readBits width.toNat reader).2.inWords words) := by
  rcases reader with ⟨source, fault⟩
  cases fault with
  | some fault => rfl
  | none =>
      have tooWide_iff : 32 < width ↔ 32 < width.toNat := UInt8.lt_iff_toNat_lt
      simp only [Reader.readBlock, Reader.readBits, Reader.inWords, tooWide_iff]
      by_cases tooWide : 32 < width.toNat
      · rw [if_pos tooWide, if_pos tooWide]
        rfl
      · rw [if_neg tooWide, if_neg tooWide,
          inWords.takeBlock_eq isValid (Nat.le_of_not_lt tooWide)]
        cases BitSource.take width.toNat source with
        | none => rfl
        | some step => rfl

variable [FiniteSource σ] [FiniteSource τ]

/-- A decoder gives the same result on words. -/
theorem run_eq {α : Type} (decoder : Decoder α) :
    decoder.run (reader.inWords words) =
      ((decoder.run reader).1, (decoder.run reader).2.inWords words) := by
  have alike := (decoder.run_alike (fun impossible => impossible.elim) inWords.inStep
    (Reader.keptBy_inWords isValid)).together
  exact Prod.ext alike.1 (Reader.eq_inWords alike.2)

/-- Every session shows the same on words. -/
theorem session_eq (session : Session) :
    session.run (reader.inWords words) =
      ((session.run reader).1, (session.run reader).2.inWords words) := by
  have alike := session.run_related inWords.inStep (Reader.keptBy_inWords isValid)
  exact Prod.ext alike.1 (Reader.eq_inWords alike.2)

end SourceInWords

/-! ## Sinks -/

/-- In each state in which `valid` holds, `words` takes what the sink takes. -/
structure SinkInWords [BitSink σ] [BlockSink σ] [BitSink τ] (valid : τ → Prop) (words : τ → σ) :
    Prop where
  valid_push : ∀ {sink : τ}, valid sink → ∀ bit, valid (BitSink.push sink bit)
  bitsWritten_eq : ∀ {sink : τ}, valid sink →
    BitSink.bitsWritten (words sink) = BitSink.bitsWritten sink
  push_eq : ∀ {sink : τ}, valid sink → ∀ bit,
    BitSink.push (words sink) bit = words (BitSink.push sink bit)
  putBlock_eq : ∀ {sink : τ}, valid sink → ∀ {width : UInt8}, width.toNat ≤ 32 → ∀ value,
    BlockSink.putBlock value width (words sink) =
      words (BitSink.append sink (Bits.ofNat width.toNat value.toNat))

namespace SinkInWords

variable [BitSink σ] [BlockSink σ] [BitSink τ] {valid : τ → Prop} {words : τ → σ}
  (inWords : SinkInWords valid words)

include inWords

theorem inStep : SinksInStep (KeptBy valid words) where
  bitsWritten_eq := by
    rintro first second ⟨isValid, rfl⟩
    exact inWords.bitsWritten_eq isValid
  push_related := by
    rintro first second ⟨isValid, rfl⟩ bit
    exact ⟨inWords.valid_push isValid bit, inWords.push_eq isValid bit⟩

variable {sink : τ} (isValid : valid sink)

include isValid

/-- A block is written as its bits are. -/
theorem writeBlock_eq (value : UInt32) (width : UInt8) :
    BlockSink.writeBlock value width (words sink) =
      (BitSink.writeBits value.toNat width.toNat sink).map words := by
  have tooWide_iff : 32 < width ↔ 32 < width.toNat := UInt8.lt_iff_toNat_lt
  rw [BlockSink.writeBlock, BitSink.writeBits]
  by_cases tooWide : 32 < width.toNat
  · rw [if_pos (tooWide_iff.mpr tooWide), if_pos tooWide]
    rfl
  · rw [if_neg (mt tooWide_iff.mp tooWide), if_neg tooWide,
      inWords.putBlock_eq isValid (Nat.le_of_not_lt tooWide)]
    rfl

/-- Every session shows the same on words, and leaves them as it leaves the sink. -/
theorem session_eq (fields : List CodedField) :
    BitSink.session fields (words sink) =
        ((BitSink.session fields sink).1, words (BitSink.session fields sink).2) ∧
      valid (BitSink.session fields sink).2 := by
  rcases inWords.inStep.session_related ⟨isValid, rfl⟩ fields with
    ⟨observed_eq, stillValid, last_eq⟩
  exact ⟨Prod.ext observed_eq last_eq, stillValid⟩

end SinkInWords

end CodedVideo
