import CodedVideo.CodedField
import CodedVideo.Proofs.Bits.PlainReads
import CodedVideo.Proofs.Bits.Sink

/-!
# Reading coded fields back

Each field is written as bits that depend on the field and, up to a byte boundary, on the position
that they start at. Reading in the same form gives the value that the form has kept: a number of
fixed width keeps its low bits, any other value is kept whole.
-/

namespace CodedVideo.CodedField

/-- The form of the field can hold its value, up to the higher bits of a number of fixed width. -/
def Fits : CodedField → Prop
  | bits _ width => width ≤ 32
  | wideBits _ width => width ≤ 64
  | unsigned value => value < ExpGolomb.unsignedLimit
  | signed value => ExpGolomb.fitsSigned value = true
  | flag _ | alignment | trailing => True

instance : (field : CodedField) → Decidable field.Fits
  | bits _ width => inferInstanceAs (Decidable (width ≤ 32))
  | wideBits _ width => inferInstanceAs (Decidable (width ≤ 64))
  | unsigned value => inferInstanceAs (Decidable (value < ExpGolomb.unsignedLimit))
  | signed value => inferInstanceAs (Decidable (ExpGolomb.fitsSigned value = true))
  | flag _ | alignment | trailing => inferInstanceAs (Decidable True)

/-- The field with the value that its form keeps. -/
def kept : CodedField → CodedField
  | bits value width => bits (value % 1 <<< width) width
  | wideBits value width => wideBits (value % 1 <<< width) width
  | field => field

/-! ## Writing -/

/-- The bits of a field that starts at a position. -/
def code : CodedField → Nat → List Bool
  | bits value width, _ => Bits.ofNat width value
  | wideBits value width, _ => Bits.ofNat width value
  | flag value, _ => [value]
  | unsigned value, _ => ExpGolomb.code value
  | signed value, _ => ExpGolomb.code (ExpGolomb.ofSigned value)
  | alignment, position => List.replicate (Bits.toBoundary position) false
  | trailing, position => true :: List.replicate (Bits.toBoundary (position + 1)) false

/-- The bits of fields in a row, the first of which starts at a position. -/
def codeAll : List CodedField → Nat → List Bool
  | [], _ => []
  | field :: fields, position =>
      field.code position ++ codeAll fields (position + (field.code position).length)

theorem codeAll_append (front back : List CodedField) (position : Nat) :
    codeAll (front ++ back) position =
      codeAll front position ++ codeAll back (position + (codeAll front position).length) := by
  induction front generalizing position with
  | nil => rfl
  | cons field front inductionHypothesis =>
      simp only [List.cons_append, codeAll, inductionHypothesis, List.append_assoc,
        List.length_append, Nat.add_assoc]

/-- Under a condition, the first field is there under it and so are the others. -/
theorem onlyIf_cons (condition : Bool) (field : CodedField) (fields : List CodedField) :
    onlyIf condition (field :: fields) = onlyIf condition [field] ++ onlyIf condition fields := by
  cases condition <;> rfl

/-- A choice of fields is the fields under a condition and those under its opposite. -/
theorem ite_eq_onlyIf (condition : Bool) (first second : List CodedField) :
    (if condition then first else second) =
      onlyIf condition first ++ onlyIf (!condition) second := by
  cases condition with
  | true => exact (List.append_nil first).symm
  | false => rfl

/-- Flags have their bits. -/
theorem codeAll_map_flag (bits : List Bool) (position : Nat) :
    codeAll (bits.map flag) position = bits := by
  induction bits generalizing position with
  | nil => rfl
  | cons bit bits inductionHypothesis =>
      exact congrArg (bit :: ·) (inductionHypothesis (position + 1))

/-- The bits of the field depend on where it starts. -/
def IsAligning : CodedField → Prop
  | alignment | trailing => True
  | _ => False

/-- Only the bits of fields that align depend on where they start. -/
theorem codeAll_eq_of_not_isAligning {fields : List CodedField}
    (free : ∀ field ∈ fields, ¬ field.IsAligning) (first second : Nat) :
    codeAll fields first = codeAll fields second := by
  induction fields generalizing first second with
  | nil => rfl
  | cons field fields inductionHypothesis =>
      rw [List.forall_mem_cons] at free
      have code_eq : field.code first = field.code second := by
        cases field with
        | alignment | trailing => exact absurd trivial free.1
        | _ => rfl
      rw [codeAll, codeAll, code_eq, inductionHypothesis free.2]

section

variable {σ : Type} [BitSink σ] [CountingSink σ]

/-- A field that fits is written as its bits. -/
theorem write_eq {field : CodedField} (fits : field.Fits) (sink : σ) :
    field.write sink = .ok (BitSink.append sink (field.code (BitSink.bitsWritten sink))) := by
  cases field with
  | bits value width => exact if_neg (Nat.not_lt.mpr fits)
  | wideBits value width => exact if_neg (Nat.not_lt.mpr fits)
  | flag value => exact BitSink.writeFlag_eq value sink
  | unsigned value =>
      exact BitSink.writeCodeNumber_eq (ExpGolomb.leadingZeros_le (Nat.le_of_lt fits)) sink
  | signed value =>
      exact BitSink.writeCodeNumber_eq (ExpGolomb.leadingZeros_le (ExpGolomb.ofSigned_le fits)) sink
  | alignment => exact BitSink.stuffZeros_eq sink
  | trailing => exact BitSink.writeTrailingBits_eq sink

/-- Fields that fit are written as their bits, one after another. -/
theorem writeAll_eq {fields : List CodedField} (fit : ∀ field ∈ fields, field.Fits) (sink : σ) :
    writeAll fields sink =
      .ok (BitSink.append sink (codeAll fields (BitSink.bitsWritten sink))) := by
  induction fields generalizing sink with
  | nil => rfl
  | cons field fields inductionHypothesis =>
      rw [List.forall_mem_cons] at fit
      rw [writeAll, write_eq fit.1 sink]
      simp only
      rw [inductionHypothesis fit.2, BitSink.bitsWritten_append, codeAll, BitSink.append_append]

omit [CountingSink σ] in
/-- Fields are written one part after the other. -/
theorem writeAll_append {front back : List CodedField} {sink middle : σ}
    (front_eq : writeAll front sink = .ok middle) :
    writeAll (front ++ back) sink = writeAll back middle := by
  induction front generalizing sink with
  | nil =>
      cases front_eq
      rfl
  | cons field front inductionHypothesis =>
      rw [writeAll] at front_eq
      rw [List.cons_append, writeAll]
      split at front_eq
      · exact inductionHypothesis front_eq
      · cases front_eq

end

/-! ## Reading -/

section

variable {σ : Type} [BitSource σ]

/-- Reads a field of the same form. -/
def read : CodedField → ReadM σ CodedField
  | bits _ width => (bits · width) <$> Reader.readBits width
  | wideBits _ width => (wideBits · width) <$> Reader.readWideBits width
  | flag _ => flag <$> Reader.readFlag
  | unsigned _ => unsigned <$> Reader.readUnsigned
  | signed _ => signed <$> Reader.readSigned
  | alignment => (fun _ => alignment) <$> Reader.align
  | trailing => (fun _ => trailing) <$> Reader.readTrailingBits

/-- Reads fields of the same forms, one after another. -/
def readAll : List CodedField → ReadM σ (List CodedField)
  | [] => return []
  | field :: fields => do
      let first ← field.read
      let others ← readAll fields
      return first :: others

end

open PlainReader (before)

/-- The bits of a field in front of others are read as what the field keeps. -/
theorem read_before {field : CodedField} (fits : field.Fits) (notLast : field ≠ trailing)
    (position : Nat) (rest : List Bool) :
    field.read (before position (field.code position ++ rest)) =
      (.ok field.kept, before (position + (field.code position).length) rest) := by
  have mapped {α : Type} {part : ReadM PlainSource α} {reader last : PlainReader} {value : α}
      (ended : part reader = (.ok value, last)) (form : α → CodedField) :
      (form <$> part) reader = (.ok (form value), last) := by
    have sequence_eq := Reader.bind_apply part (fun value => pure (form value)) reader
    rw [ended] at sequence_eq
    exact sequence_eq
  cases field with
  | bits value width =>
      have ended := Reader.readBits_before position (Bits.length_ofNat width value) fits rest
      rw [Bits.toNat_ofNat] at ended
      rw [code, Bits.length_ofNat]
      exact mapped ended (bits · width)
  | wideBits value width =>
      have ended := Reader.readWideBits_before position (Bits.length_ofNat width value) fits rest
      rw [Bits.toNat_ofNat] at ended
      rw [code, Bits.length_ofNat]
      exact mapped ended (wideBits · width)
  | flag value => exact mapped (Reader.readFlag_before position value rest) flag
  | unsigned value => exact mapped (Reader.readUnsigned_before position fits rest) unsigned
  | signed value => exact mapped (Reader.readSigned_before position fits rest) signed
  | alignment =>
      have ended := Reader.align_before position
        (List.length_replicate (n := Bits.toBoundary position) (a := false)) rest
      exact mapped ended fun _ => alignment
  | trailing => exact absurd rfl notLast

/-- The bits of fields in front of others are read as what the fields keep. -/
theorem readAll_before {fields : List CodedField} (fit : ∀ field ∈ fields, field.Fits)
    (notLast : trailing ∉ fields) (position : Nat) (rest : List Bool) :
    readAll fields (before position (codeAll fields position ++ rest)) =
      (.ok (fields.map kept), before (position + (codeAll fields position).length) rest) := by
  induction fields generalizing position with
  | nil => rfl
  | cons field fields inductionHypothesis =>
      rw [List.forall_mem_cons] at fit
      rw [List.mem_cons, not_or] at notLast
      have first := read_before fit.1 (Ne.symm notLast.1) position
        (codeAll fields (position + (field.code position).length) ++ rest)
      have others := inductionHypothesis fit.2 notLast.2
        (position + (field.code position).length)
      rw [readAll, Reader.bind_apply, codeAll, List.append_assoc, first]
      simp only [resume]
      rw [Reader.bind_apply, others, List.length_append, Nat.add_assoc]
      rfl

end CodedVideo.CodedField
