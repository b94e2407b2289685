import CodedVideo.Proofs.CodedField

/-!
# Sessions with a writer

A writer that is changed in place keeps what the steps of a write have written, also where a later
step of that write is refused. No write leaves anything behind that way: it is refused by its first
step or by none, so writing in place is writing at once. A session is a finite sequence of writes,
between which the user of a writer sees how the last one ended, the number of bits written and
whether the next one opens a byte.

Main statement: whether a write is refused depends on the field alone, and a write that is not
refused appends the bits of the field.
-/

namespace CodedVideo

/-- The bits of a number are its high bits and its low bits. -/
theorem Bits.ofNat_add (high low value : Nat) :
    ofNat (high + low) value = ofNat high (value >>> low) ++ ofNat low value := by
  induction high with
  | zero => rw [Nat.zero_add, ofNat, List.nil_append]
  | succ high inductionHypothesis =>
      rw [Nat.succ_add, ofNat, ofNat, inductionHypothesis, Nat.testBit_shiftRight,
        Nat.add_comm low high, List.cons_append]

/-- A write in place: how it ends, and in either case the sink behind it. -/
abbrev WriteM (σ : Type) := ExceptT BitFault (StateM σ)

namespace WriteM

variable {σ : Type} [BitSink σ]

omit [BitSink σ] in
/-- The write in place that ends as a write at once does. -/
def ofAtOnce (write : σ → Except BitFault σ) : WriteM σ Unit := fun sink =>
  match write sink with
  | .ok written => (.ok (), written)
  | .error fault => (.error fault, sink)

/-! ## Writes as steps -/

/-- Writes at most 32 bits. -/
def bits (value width : Nat) : WriteM σ Unit :=
  ofAtOnce (BitSink.writeBits value width)

/-- Writes at most 64 bits; more than 32 are written in two steps. -/
def wideBits (value width : Nat) : WriteM σ Unit :=
  if 64 < width then throw (.invalidBitCount width)
  else if 32 < width then do
    bits (value >>> 32) (width - 32)
    bits value 32
  else bits value width

/-- Writes one bit. -/
def flag (value : Bool) : WriteM σ Unit :=
  bits value.toNat 1

/-- Writes the zeros of an Exp-Golomb code and then what stands behind them. -/
def codeNumber (number : Nat) : WriteM σ Unit := do
  bits 0 (ExpGolomb.leadingZeros number)
  wideBits (number + 1) (ExpGolomb.leadingZeros number + 1)

/-- Writes zeros up to the byte boundary in front of which the sink stands. -/
def stuffZeros : WriteM σ Unit := do
  let sink ← get
  bits 0 (Bits.toBoundary (BitSink.bitsWritten sink))

/-- Writes a one, and then zeros up to the byte boundary. -/
def trailingBits : WriteM σ Unit := do
  flag true
  stuffZeros

/-! ## Steps as writes at once -/

omit [BitSink σ] in
/-- Two steps of which the second is refused behind nothing that the first writes are a write at
once. -/
theorem sequence_apply {first second : σ → Except BitFault σ} {sink : σ}
    (ends : ∀ middle, first sink = .ok middle → ∃ written, second middle = .ok written) :
    (do ofAtOnce first; ofAtOnce second : WriteM σ Unit) sink =
      ofAtOnce (fun sink => first sink >>= second) sink := by
  change ExceptT.bind (ofAtOnce first) (fun _ => ofAtOnce second) sink = _
  simp only [ExceptT.bind, ExceptT.mk, bind, StateT.bind, ofAtOnce]
  cases first_eq : first sink with
  | error fault => rfl
  | ok middle =>
      obtain ⟨written, second_eq⟩ := ends middle first_eq
      simp only [Except.bind, second_eq]
      change ofAtOnce second middle = _
      rw [ofAtOnce, second_eq]

/-- More than 32 bits are the high bits and the 32 low bits. -/
theorem wideBits_apply (value width : Nat) (sink : σ) :
    wideBits value width sink = ofAtOnce (BitSink.writeWideBits value width) sink := by
  rw [wideBits]
  by_cases tooWide : 64 < width
  · rw [if_pos tooWide, ofAtOnce, BitSink.writeWideBits, if_pos tooWide]
    rfl
  · rw [if_neg tooWide]
    by_cases isWide : 32 < width
    · have width_eq : width = width - 32 + 32 := by omega
      have highFits : ¬ 32 < width - 32 := by omega
      have parts_eq : (BitSink.writeBits (value >>> 32) (width - 32) sink >>=
          BitSink.writeBits value 32) = BitSink.writeWideBits value width sink := by
        rw [BitSink.writeBits, if_neg highFits, BitSink.writeWideBits, if_neg tooWide]
        conv => rhs; rw [width_eq, Bits.ofNat_add, BitSink.append_append]
        rfl
      have lowEnds (middle : σ) : ∃ written, BitSink.writeBits value 32 middle = .ok written :=
        ⟨_, if_neg (Nat.lt_irrefl 32)⟩
      rw [if_pos isWide, bits, bits, sequence_apply fun middle _ => lowEnds middle]
      simp only [ofAtOnce, parts_eq]
    · rw [if_neg isWide, bits, ofAtOnce, ofAtOnce, BitSink.writeBits, if_neg isWide,
        BitSink.writeWideBits, if_neg tooWide]

/-- Behind the zeros of a code there are at most 33 bits, which are not refused. -/
theorem codeNumber_apply (number : Nat) (sink : σ) :
    codeNumber number sink = ofAtOnce (BitSink.writeCodeNumber number) sink := by
  have whole_eq : (wideBits (number + 1) (ExpGolomb.leadingZeros number + 1) : WriteM σ Unit) =
      ofAtOnce (BitSink.writeWideBits (number + 1) (ExpGolomb.leadingZeros number + 1)) :=
    funext (wideBits_apply _ _)
  rw [codeNumber, whole_eq]
  apply sequence_apply
  intro middle zeros_eq
  have few : ¬ 32 < ExpGolomb.leadingZeros number := by
    intro many
    rw [BitSink.writeBits, if_pos many] at zeros_eq
    contradiction
  exact ⟨_, if_neg (by omega)⟩

theorem trailingBits_apply (sink : σ) :
    trailingBits sink = ofAtOnce BitSink.writeTrailingBits sink := by
  change (do ofAtOnce (BitSink.writeFlag true); ofAtOnce BitSink.stuffZeros) sink = _
  exact sequence_apply fun middle _ => ⟨_, BitSink.stuffZeros_eq middle⟩

end WriteM

namespace CodedField

section

variable {σ : Type} [BitSink σ]

/-- Writes one field in place. -/
def perform : CodedField → WriteM σ Unit
  | bits value width => WriteM.bits value width
  | wideBits value width => WriteM.wideBits value width
  | flag value => WriteM.flag value
  | unsigned value => WriteM.codeNumber value
  | signed value => WriteM.codeNumber (ExpGolomb.ofSigned value)
  | alignment => WriteM.stuffZeros
  | trailing => WriteM.trailingBits

/-- Writing in place is writing at once; a refusal leaves the sink as it was. -/
theorem perform_apply (field : CodedField) (sink : σ) :
    field.perform sink = WriteM.ofAtOnce field.write sink := by
  cases field with
  | bits value width => rfl
  | wideBits value width => exact WriteM.wideBits_apply value width sink
  | flag value => rfl
  | unsigned value => exact WriteM.codeNumber_apply value sink
  | signed value => exact WriteM.codeNumber_apply (ExpGolomb.ofSigned value) sink
  | alignment => rfl
  | trailing => exact WriteM.trailingBits_apply sink

end

/-! ## Refusals -/

/-- The fault of a write of more than `limit` bits. -/
def refusalAbove (limit width : Nat) : Option BitFault :=
  if limit < width then some (.invalidBitCount width) else none

/-- The fault that the write of a field is refused with, if any. -/
def refusal? : CodedField → Option BitFault
  | bits _ width => refusalAbove 32 width
  | wideBits _ width => refusalAbove 64 width
  | unsigned value => refusalAbove 32 (ExpGolomb.leadingZeros value)
  | signed value => refusalAbove 32 (ExpGolomb.leadingZeros (ExpGolomb.ofSigned value))
  | flag _ | alignment | trailing => none

end CodedField

namespace BitSink

variable {σ : Type} [BitSink σ]

/-- What a write leaves that is refused with a fault or else appends bits. -/
def appendUnless (refusal : Option BitFault) (bits : List Bool) (sink : σ) : Except BitFault σ :=
  match refusal with
  | some fault => .error fault
  | none => .ok (append sink bits)

theorem writeBits_eq (value width : Nat) (sink : σ) :
    writeBits value width sink =
      appendUnless (CodedField.refusalAbove 32 width) (Bits.ofNat width value) sink := by
  rw [writeBits, CodedField.refusalAbove]
  split <;> rfl

theorem writeWideBits_eq (value width : Nat) (sink : σ) :
    writeWideBits value width sink =
      appendUnless (CodedField.refusalAbove 64 width) (Bits.ofNat width value) sink := by
  rw [writeWideBits, CodedField.refusalAbove]
  split <;> rfl

/-- A code is refused for its zeros only. -/
theorem writeCodeNumber_eq_appendUnless (number : Nat) (sink : σ) :
    writeCodeNumber number sink =
      appendUnless (CodedField.refusalAbove 32 (ExpGolomb.leadingZeros number))
        (ExpGolomb.code number) sink := by
  rw [CodedField.refusalAbove]
  split
  · next many =>
    rw [writeCodeNumber, writeBits, if_pos many]
    rfl
  · next few => exact writeCodeNumber_eq (Nat.le_of_not_lt few) sink

end BitSink

namespace CodedField

section

variable {σ : Type} [BitSink σ] [CountingSink σ]

/-- A field is refused or appended. -/
theorem write_eq_appendUnless (field : CodedField) (sink : σ) :
    field.write sink =
      BitSink.appendUnless field.refusal? (field.code (BitSink.bitsWritten sink)) sink := by
  cases field with
  | bits value width => exact BitSink.writeBits_eq value width sink
  | wideBits value width => exact BitSink.writeWideBits_eq value width sink
  | flag value => exact BitSink.writeFlag_eq value sink
  | unsigned value => exact BitSink.writeCodeNumber_eq_appendUnless value sink
  | signed value => exact BitSink.writeCodeNumber_eq_appendUnless (ExpGolomb.ofSigned value) sink
  | alignment => exact BitSink.stuffZeros_eq sink
  | trailing => exact BitSink.writeTrailingBits_eq sink

/-- A refused field leaves the sink as it was. -/
theorem perform_eq_error {field : CodedField} {fault : BitFault}
    (refused : field.refusal? = some fault) (sink : σ) :
    field.perform sink = (.error fault, sink) := by
  rw [perform_apply, WriteM.ofAtOnce, write_eq_appendUnless, refused]
  rfl

/-- A field that is not refused is appended. -/
theorem perform_eq_ok {field : CodedField} (accepted : field.refusal? = none) (sink : σ) :
    field.perform sink =
      (.ok (), BitSink.append sink (field.code (BitSink.bitsWritten sink))) := by
  rw [perform_apply, WriteM.ofAtOnce, write_eq_appendUnless, accepted]
  rfl

end

end CodedField

/-! ## Sessions -/

/-- What is seen behind a write. -/
structure WriteObservation where
  result : Except BitFault Unit
  bitsWritten : Nat
  isByteAligned : Bool

namespace BitSink

variable {σ τ : Type} [BitSink σ] [BitSink τ]

/-- What a sink shows behind a write that ended with `result`. -/
def observe (result : Except BitFault Unit) (sink : σ) : WriteObservation where
  result := result
  bitsWritten := bitsWritten sink
  isByteAligned := isByteAligned sink

/-- Writes one field after another, refused ones included: what is seen behind each of them, and the
last sink. -/
def session : List CodedField → σ → List WriteObservation × σ
  | [], sink => ([], sink)
  | field :: fields, sink =>
      let (result, written) := field.perform sink
      let (observations, last) := session fields written
      (observe result written :: observations, last)

/-- The last field of a session is written behind the others. -/
theorem session_concat (fields : List CodedField) (field : CodedField) (sink : σ) :
    (session (fields ++ [field]) sink).2 = (field.perform (session fields sink).2).2 := by
  induction fields generalizing sink with
  | nil => rfl
  | cons first fields inductionHypothesis => exact inductionHypothesis (first.perform sink).2

/-- Sinks that have taken equally many bits show the same in every session, and they are left with
the same bits behind what they held. -/
theorem session_alike [CountingSink σ] [CountingSink τ] (fields : List CodedField) {first : σ}
    {second : τ} (alike : bitsWritten first = bitsWritten second) :
    (session fields first).1 = (session fields second).1 ∧
      ∃ bits, (session fields first).2 = append first bits ∧
        (session fields second).2 = append second bits := by
  induction fields generalizing first second with
  | nil => exact ⟨rfl, [], rfl, rfl⟩
  | cons field fields inductionHypothesis =>
      cases refusal : field.refusal? with
      | some fault =>
          obtain ⟨observations_eq, bits, first_eq, second_eq⟩ := inductionHypothesis alike
          simp only [session, CodedField.perform_eq_error refusal]
          refine ⟨?_, bits, first_eq, second_eq⟩
          rw [observations_eq, observe, observe, isByteAligned, isByteAligned, alike]
      | none =>
          have stillAlike : bitsWritten (append first (field.code (bitsWritten second))) =
              bitsWritten (append second (field.code (bitsWritten second))) := by
            rw [bitsWritten_append, bitsWritten_append, alike]
          obtain ⟨observations_eq, bits, first_eq, second_eq⟩ := inductionHypothesis stillAlike
          simp only [session, CodedField.perform_eq_ok refusal, alike]
          refine ⟨?_, field.code (bitsWritten second) ++ bits, ?_, ?_⟩
          · rw [observations_eq, observe, observe, isByteAligned, isByteAligned, stillAlike]
          · rw [first_eq, append_append]
          · rw [second_eq, append_append]

end BitSink

end CodedVideo
