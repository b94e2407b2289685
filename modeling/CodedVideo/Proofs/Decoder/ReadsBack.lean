import CodedVideo.Decoder.Laws
import CodedVideo.Proofs.CodedField
import CodedVideo.Proofs.Decoder.InStep

/-!
# Decoding what is coded

A structure is written as the list of its fields and read by a decoder. The decoder reads the fields
back if it gives the structure from the bits of its fields, whatever follows them, and stops behind
them. Each form of a decoder has a rule that matches it with a form of a list of fields, so that a
grammar and a coding are walked side by side, field by field.
-/

namespace CodedVideo

namespace CodedField

/-- The form of the field keeps its whole value. -/
def Exact (field : CodedField) : Prop :=
  field.Fits ∧ field.kept = field

instance (field : CodedField) : Decidable field.Exact :=
  inferInstanceAs (Decidable (_ ∧ _))

/-- A number that fits its width is kept. -/
theorem exact_bits {value width : Nat} (width_le : width ≤ 32) (value_lt : value < 1 <<< width) :
    (bits value width).Exact :=
  ⟨width_le, congrArg (bits · width) (Nat.mod_eq_of_lt value_lt)⟩

end CodedField

namespace Decoder

open CodedField (codeAll flagged onlyIf present)
open PlainReader (before)

variable {α β : Type}

/-- The bits of exact fields, from the position `start` to the position `stop`, are decoded to the
value, whatever follows them. -/
def ReadsBack (decoder : Decoder α) (fields : List CodedField) (value : α) (start stop : Nat) :
    Prop :=
  (∀ field ∈ fields, field.Exact) → start + (codeAll fields start).length = stop →
    ∀ rest,
      decoder.run (before start (codeAll fields start ++ rest)) = (.ok value, before stop rest)

/-- The bits of exact fields are decoded to the value, wherever they stand. -/
def Decodes (decoder : Decoder α) (fields : List CodedField) (value : α) : Prop :=
  ∀ start stop, decoder.ReadsBack fields value start stop

/-! ## Sequences -/

namespace ReadsBack

variable {start stop : Nat} {value : α} {middle : β} {front back fields : List CodedField}
  {first : Decoder β} {next : β → Decoder α}

theorem done (value : α) : ReadsBack (Decoder.done value) [] value start stop := by
  intro _ ends rest
  cases ends
  rfl

/-- A part is followed by what reads the fields behind it back, from where the part ends. -/
theorem bind_at (part : Decodes first front middle)
    (nexts : ReadsBack (next middle) back value (start + (codeAll front start).length) stop) :
    ReadsBack (first.bind next) (front ++ back) value start stop := by
  intro exact ends rest
  rw [List.forall_mem_append] at exact
  rw [CodedField.codeAll_append, List.length_append, ← Nat.add_assoc] at ends
  rw [CodedField.codeAll_append, List.append_assoc, run_bind, part start _ exact.1 rfl]
  exact nexts exact.2 ends rest

/-- A part is followed by what reads the fields behind it back, wherever the part ends. -/
theorem bind (part : Decodes first front middle)
    (nexts : ∀ mid, ReadsBack (next middle) back value mid stop) :
    ReadsBack (first.bind next) (front ++ back) value start stop :=
  bind_at part (nexts _)

/-- The last part with fields is followed by what has none. -/
theorem bind_last (part : Decodes first front middle)
    (nexts : ReadsBack (next middle) [] value stop stop) :
    ReadsBack (first.bind next) front value start stop := by
  intro exact ends rest
  rw [run_bind, part start stop exact ends]
  exact nexts (List.forall_mem_nil _) rfl rest

/-- A part without fields is followed by what reads all of them back. -/
theorem bind_first (part : Decodes first [] middle)
    (nexts : ReadsBack (next middle) fields value start stop) :
    ReadsBack (first.bind next) fields value start stop := by
  intro exact ends rest
  have started := part start start (List.forall_mem_nil _) rfl (codeAll fields start ++ rest)
  rw [run_bind]
  rw [codeAll, List.nil_append] at started
  rw [started]
  exact nexts exact ends rest

/-- Naming the structure of a part changes nothing of what it reads. -/
theorem within {structureName : String} {offset : Option Nat} {part : Decoder α}
    (reads : ReadsBack part fields value start stop) :
    ReadsBack (Decoder.within structureName offset part Decoder.done) fields value start stop := by
  intro exact ends rest
  rw [run_within, reads exact ends rest]
  rfl

/-- What reads fields back reads other fields back that have the same bits. -/
theorem of_codeAll_eq {part : Decoder α} {others : List CodedField}
    (reads : ReadsBack part others value start stop) (exact : ∀ field ∈ others, field.Exact)
    (codeAll_eq : codeAll fields start = codeAll others start) :
    ReadsBack part fields value start stop := by
  intro _ ends rest
  rw [codeAll_eq] at ends ⊢
  exact reads exact ends rest

/-- The position is asked for where the fields start. -/
theorem position_bind {next : Nat → Decoder α}
    (nexts : ReadsBack (next start) fields value start stop) :
    ReadsBack (Decoder.position.bind next) fields value start stop := by
  intro exact ends rest
  exact nexts exact ends rest

end ReadsBack

/-! ## Single reads -/

namespace Decodes

variable {value : α} {fields : List CodedField}

theorem done (value : α) : Decodes (Decoder.done value) [] value := fun _ _ =>
  ReadsBack.done value

/-- A field is decoded by the read of its form. -/
theorem ask {query : Query α} {field : CodedField}
    (reads : ∀ position rest, field.Exact →
      query.answer (before position (field.code position ++ rest)) =
        (.ok value, before (position + (field.code position).length) rest)) :
    Decodes (Decoder.ask query Decoder.done) [field] value := by
  intro start stop exact ends rest
  have read := reads start rest (exact field (List.mem_singleton_self field))
  rw [codeAll, codeAll, List.append_nil] at ends ⊢
  rw [run_ask, read, ends]
  rfl

theorem bits (value width : Nat) : Decodes (Decoder.bits width) [.bits value width] value := by
  apply ask
  rintro position rest ⟨fits, kept_eq⟩
  have read := Reader.readBits_before position (Bits.length_ofNat width value) fits rest
  rw [Bits.toNat_ofNat, (CodedField.bits.inj kept_eq).1] at read
  rw [CodedField.code, Bits.length_ofNat]
  exact read

theorem wideBits (value width : Nat) :
    Decodes (Decoder.wideBits width) [.wideBits value width] value := by
  apply ask
  rintro position rest ⟨fits, kept_eq⟩
  have read := Reader.readWideBits_before position (Bits.length_ofNat width value) fits rest
  rw [Bits.toNat_ofNat, (CodedField.wideBits.inj kept_eq).1] at read
  rw [CodedField.code, Bits.length_ofNat]
  exact read

/-- A flag can be read as a number of one bit. -/
theorem bit (value : Bool) : Decodes (Decoder.bits 1) [.flag value] value.toNat := by
  apply ask
  intro position rest _
  have read := Reader.readBits_before position (List.length_singleton (a := value)) (by decide) rest
  cases value <;> exact read

theorem flag (value : Bool) : Decodes Decoder.flag [.flag value] value := by
  apply ask
  intro position rest _
  exact Reader.readFlag_before position value rest

theorem unsigned (value : Nat) : Decodes Decoder.unsigned [.unsigned value] value := by
  apply ask
  intro position rest exact
  exact Reader.readUnsigned_before position exact.1 rest

theorem signed (value : Int) : Decodes Decoder.signed [.signed value] value := by
  apply ask
  intro position rest exact
  exact Reader.readSigned_before position exact.1 rest

/-- The zeros up to a byte boundary are passed over, wherever they start. -/
theorem align : Decodes Decoder.align [.alignment] () := by
  apply ask
  intro position rest _
  exact Reader.align_before position List.length_replicate rest

/-! ## Composite forms -/

theorem within {structureName : String} {offset : Option Nat} {part : Decoder α}
    (reads : Decodes part fields value) :
    Decodes (Decoder.within structureName offset part Decoder.done) fields value :=
  fun start stop => ReadsBack.within (reads start stop)

theorem require {condition : Bool} {error : Error} (holds : condition = true) :
    Decodes (Decoder.require condition error) [] () := by
  rw [Decoder.require, if_pos holds]
  exact done ()

theorem boundedUnsigned {structureName name : String} {limit value : Nat}
    (inRange : value ≤ limit) :
    Decodes (Decoder.boundedUnsigned structureName name limit) [.unsigned value] value := by
  intro start stop
  refine ReadsBack.bind_last (unsigned value) ?_
  rw [if_pos inRange]
  exact ReadsBack.done value

/-- A part that is there only under a condition has its fields under that condition. -/
theorem whenElse_of {condition : Bool} {absent : α} {part : Decoder α}
    (isThere : condition = true → Decodes part fields value)
    (isAbsent : condition = false → value = absent) :
    Decodes (Decoder.whenElse condition absent part) (onlyIf condition fields) value := by
  cases condition with
  | true => exact isThere rfl
  | false =>
      rw [isAbsent rfl]
      exact done absent

theorem whenElse {condition : Bool} {absent : α} {part : Decoder α}
    (reads : Decodes part fields value) (isAbsent : condition = false → value = absent) :
    Decodes (Decoder.whenElse condition absent part) (onlyIf condition fields) value :=
  whenElse_of (fun _ => reads) isAbsent

/-- A part that may be absent has its fields where it is there. -/
theorem optional {condition : Bool} {part : Decoder α} {coding : α → List CodedField}
    {value : Option α} (isThere : value.isSome = condition)
    (reads : ∀ content ∈ value, Decodes part (coding content) content) :
    Decodes (Decoder.optional condition part) (present coding value) value := by
  subst isThere
  cases value with
  | none => exact done none
  | some content =>
      intro start stop
      exact ReadsBack.bind_last (reads content rfl) (ReadsBack.done (some content))

/-- A part behind a flag has the flag in front of its fields. -/
theorem optionalBehindFlag {part : Decoder α} {coding : α → List CodedField} {value : Option α}
    (reads : ∀ content ∈ value, Decodes part (coding content) content) :
    Decodes (Decoder.flag.bind fun isThere => Decoder.optional isThere part)
      (flagged coding value) value := by
  intro start stop
  refine ReadsBack.bind (flag value.isSome) ?_
  intro mid
  exact optional rfl reads mid stop

/-! ## Repetition -/

/-- Values that are decoded one after another, each knowing its index, have their fields one after
another. -/
theorem foldFrom_cons {item : Nat → Decoder α} {coding : α → Nat → List CodedField}
    {values : List α} {index : Nat}
    (reads : ∀ entry ∈ values.zipIdx index, Decodes (item entry.2) (coding entry.1 entry.2) entry.1)
    (others : List α) :
    Decodes (Decoder.foldFrom
        (fun index values => (item index).bind fun value => Decoder.done (value :: values))
        values.length index others)
      ((values.zipIdx index).flatMap fun entry => coding entry.1 entry.2)
      (values.reverse ++ others) := by
  induction values generalizing index others with
  | nil => exact done others
  | cons value values inductionHypothesis =>
      intro start stop
      rw [List.zipIdx_cons, List.forall_mem_cons] at reads
      rw [List.zipIdx_cons, List.flatMap_cons, List.reverse_cons, List.append_assoc]
      rw [List.length_cons, Decoder.foldFrom, bind_assoc]
      refine ReadsBack.bind reads.1 ?_
      intro mid
      exact inductionHypothesis reads.2 (value :: others) mid stop

/-- Values that are decoded and coded by their index are decoded one after another. -/
theorem timesIndexed {item : Nat → Decoder α} (coding : α → Nat → List CodedField)
    {values : List α} {count : Nat} (length_eq : values.length = count)
    (reads : ∀ entry ∈ values.zipIdx, Decodes (item entry.2) (coding entry.1 entry.2) entry.1) :
    Decodes (Decoder.times count item)
      (values.zipIdx.flatMap fun entry => coding entry.1 entry.2) values := by
  subst length_eq
  intro start stop
  refine ReadsBack.bind_last (foldFrom_cons reads []) ?_
  rw [List.append_nil, List.reverse_reverse]
  exact ReadsBack.done values

/-- Values that are decoded by their index are decoded one after another. -/
theorem times {item : Nat → Decoder α} {coding : α → List CodedField} {values : List α}
    {count : Nat} (length_eq : values.length = count)
    (reads : ∀ entry ∈ values.zipIdx, Decodes (item entry.2) (coding entry.1) entry.1) :
    Decodes (Decoder.times count item) (values.flatMap coding) values := by
  have allRead := timesIndexed (fun value _ => coding value) length_eq reads
  rw [← List.flatMap_map Prod.fst coding, List.zipIdx_map_fst] at allRead
  exact allRead

theorem replicate {item : Decoder α} {coding : α → List CodedField} {values : List α} {count : Nat}
    (length_eq : values.length = count)
    (reads : ∀ value ∈ values, Decodes item (coding value) value) :
    Decodes (Decoder.replicate count item) (values.flatMap coding) values := by
  apply times length_eq
  intro entry isThere
  exact reads entry.1 (List.fst_mem_of_mem_zipIdx isThere)

/-- Values of one field each are decoded one after another. -/
theorem replicate_map {item : Decoder α} {field : α → CodedField} {values : List α} {count : Nat}
    (length_eq : values.length = count) (reads : ∀ value, Decodes item [field value] value) :
    Decodes (Decoder.replicate count item) (values.map field) values := by
  rw [List.map_eq_flatMap]
  exact replicate length_eq fun value _ => reads value

theorem eachOnto {κ : Type} {item : κ → Decoder α} {coding : α → List CodedField} {key : α → κ}
    {values : List α} (reads : ∀ value ∈ values, Decodes (item (key value)) (coding value) value)
    (others : List α) :
    Decodes (Decoder.eachOnto item (values.map key) others) (values.flatMap coding)
      (others.reverse ++ values) := by
  induction values generalizing others with
  | nil =>
      rw [List.append_nil]
      exact done others.reverse
  | cons value values inductionHypothesis =>
      intro start stop
      rw [List.forall_mem_cons] at reads
      have following := inductionHypothesis reads.2 (value :: others)
      rw [List.reverse_cons, List.append_assoc] at following
      refine ReadsBack.bind reads.1 ?_
      intro mid
      exact following mid stop

/-- Values that each need a key are decoded one after another. -/
theorem each {κ : Type} {item : κ → Decoder α} {coding : α → List CodedField} {key : α → κ}
    {values : List α} (reads : ∀ value ∈ values, Decodes (item (key value)) (coding value) value) :
    Decodes (Decoder.each (values.map key) item) (values.flatMap coding) values :=
  eachOnto reads []

/-! ## Series -/

section

variable {entry : Nat → Decoder (Option β)} {coding : β → List CodedField} {stopCode : Nat}

/-- Behind the code that opens an entry, the series goes on with that entry. -/
theorem runSeries_before (entry : Nat → Decoder (Option β)) (bound : Nat) (others : List β)
    {code : Nat} (exact : (CodedField.unsigned code).Exact) (start : Nat) (rest : List Bool) :
    runSeries (fun code => (entry code).run) (bound + 1) others
        (before start (ExpGolomb.code code ++ rest)) =
      resume
        (fun
          | none => fun last => (.ok others.reverse, last)
          | some value => runSeries (fun code => (entry code).run) bound (value :: others))
        (fun error _ => error)
        ((entry code).run (before (start + (ExpGolomb.code code).length) rest)) := by
  rw [runSeries_succ, Reader.readUnsigned_before start exact.1 rest]
  rfl

/-- The entries and the end of a series are decoded under each bound that covers their bits. -/
theorem runSeries_codeAll
    (opens : ∀ value, ∃ code fields, coding value = .unsigned code :: fields ∧
      Decodes (entry code) fields (some value))
    (stops : Decodes (entry stopCode) [] none) (values others : List β) {bound start stop : Nat}
    (exact : ∀ field ∈ values.flatMap coding ++ [.unsigned stopCode], field.Exact)
    (ends : start + (codeAll (values.flatMap coding ++ [.unsigned stopCode]) start).length = stop)
    (covered : (codeAll (values.flatMap coding ++ [.unsigned stopCode]) start).length < bound)
    (rest : List Bool) :
    runSeries (fun code => (entry code).run) bound others
        (before start (codeAll (values.flatMap coding ++ [.unsigned stopCode]) start ++ rest)) =
      (.ok (others.reverse ++ values), before stop rest) := by
  induction values generalizing others bound start with
  | nil =>
      obtain ⟨bound, rfl⟩ :=
        Nat.exists_eq_succ_of_ne_zero (Nat.ne_of_gt (Nat.zero_lt_of_lt covered))
      rw [List.flatMap_nil, List.nil_append] at *
      rw [codeAll, codeAll, List.append_nil, CodedField.code] at *
      have stopped := stops stop stop (List.forall_mem_nil _) rfl rest
      rw [codeAll, List.nil_append] at stopped
      rw [runSeries_before entry bound others (exact _ (List.mem_singleton_self _)), ends, stopped,
        List.append_nil]
      rfl
  | cons value values inductionHypothesis =>
      obtain ⟨bound, rfl⟩ :=
        Nat.exists_eq_succ_of_ne_zero (Nat.ne_of_gt (Nat.zero_lt_of_lt covered))
      obtain ⟨code, fields, coding_eq, reads⟩ := opens value
      rw [List.flatMap_cons, coding_eq, List.append_assoc, List.cons_append] at exact ends covered ⊢
      rw [List.forall_mem_cons, List.forall_mem_append] at exact
      rw [codeAll, CodedField.code, CodedField.codeAll_append] at ends covered ⊢
      rw [List.length_append, List.length_append] at ends covered
      have opened : (ExpGolomb.code code).length ≠ 0 := by
        rw [ExpGolomb.length_code, ExpGolomb.codeLength]
        omega
      have entryRead := reads (start + (ExpGolomb.code code).length) _ exact.2.1 rfl
      rw [List.append_assoc, List.append_assoc, runSeries_before entry bound others exact.1,
        entryRead]
      refine (inductionHypothesis (value :: others) exact.2.2 ?_ ?_).trans ?_
      · omega
      · omega
      · rw [List.reverse_cons, List.append_assoc, List.singleton_append]

/-- Entries that each open with a code, and one more code, are decoded as a series. -/
theorem seriesOf
    (opens : ∀ value, ∃ code fields, coding value = .unsigned code :: fields ∧
      Decodes (entry code) fields (some value))
    (stops : Decodes (entry stopCode) [] none) (values : List β) :
    Decodes (Decoder.seriesOf entry) (values.flatMap coding ++ [.unsigned stopCode]) values := by
  intro start stop exact ends rest
  rw [Decoder.seriesOf, run_series, runSeries_codeAll opens stops values [] exact ends]
  · rfl
  · simp only [Reader.bitsLeft, BitSource.bitsLeft, before, List.length_append]
    omega

end

end Decodes

/-- Two parts that are decoded together are followed by what reads the fields behind them back. -/
theorem ReadsBack.bind_pair {γ : Type} {first : Decoder γ} {second : γ → Decoder β}
    {next : β → Decoder α} {front back : List CodedField} {middle : β} {value : α}
    {start stop : Nat} (pair : Decodes (first.bind second) front middle)
    (nexts : ∀ mid, ReadsBack (next middle) back value mid stop) :
    ReadsBack (first.bind fun answer => (second answer).bind next) (front ++ back) value start
      stop := by
  rw [← bind_assoc]
  exact bind pair nexts

/-- A part behind a flag is followed by what reads the fields behind it back. -/
theorem ReadsBack.optionalBehindFlag_bind {part : Decoder β} {coding : β → List CodedField}
    {middle : Option β} {next : Option β → Decoder α} {back : List CodedField} {value : α}
    {start stop : Nat} (reads : ∀ content ∈ middle, Decodes part (coding content) content)
    (nexts : ∀ mid, ReadsBack (next middle) back value mid stop) :
    ReadsBack (Decoder.flag.bind fun isThere => (Decoder.optional isThere part).bind next)
      (flagged coding middle ++ back) value start stop :=
  bind_pair (.optionalBehindFlag reads) nexts

/-- The last part with fields may stand behind a flag. -/
theorem ReadsBack.optionalBehindFlag_last {part : Decoder β} {coding : β → List CodedField}
    {middle : Option β} {next : Option β → Decoder α} {value : α} {start stop : Nat}
    (reads : ∀ content ∈ middle, Decodes part (coding content) content)
    (nexts : ReadsBack (next middle) [] value stop stop) :
    ReadsBack (Decoder.flag.bind fun isThere => (Decoder.optional isThere part).bind next)
      (flagged coding middle) value start stop := by
  rw [← bind_assoc]
  exact bind_last (.optionalBehindFlag reads) nexts

/-! ## Reading to the end -/

/-- The bits of exact fields, from the position `start` to the end of the data, are decoded to the
value. -/
def ReadsToEnd (decoder : Decoder α) (fields : List CodedField) (value : α) (start : Nat) : Prop :=
  (∀ field ∈ fields, field.Exact) →
    decoder.run (before start (codeAll fields start)) =
      (.ok value, before (start + (codeAll fields start).length) [])

namespace ReadsToEnd

variable {start : Nat} {value : α} {fields : List CodedField}

theorem trailingBits : ReadsToEnd Decoder.trailingBits [.trailing] () start := by
  intro _
  have read := Reader.readTrailingBits_before start (Bits.toBoundary (start + 1))
  simp only [codeAll, CodedField.code, List.append_nil, List.length_cons, List.length_replicate]
  rw [Decoder.trailingBits, run_ask, Query.answer, read]
  simp only [resume, run, Nat.add_assoc, Nat.add_comm 1]

theorem within {structureName : String} {offset : Option Nat} {part : Decoder α}
    (reads : ReadsToEnd part fields value start) :
    ReadsToEnd (Decoder.within structureName offset part Decoder.done) fields value start := by
  intro exact
  rw [run_within, reads exact]
  rfl

/-- A part is followed by what reads the fields behind it to the end, wherever the part ends. -/
theorem bind {first : Decoder β} {next : β → Decoder α} {front back : List CodedField} {middle : β}
    (part : Decodes first front middle) (nexts : ∀ mid, ReadsToEnd (next middle) back value mid) :
    ReadsToEnd (first.bind next) (front ++ back) value start := by
  intro exact
  rw [List.forall_mem_append] at exact
  rw [CodedField.codeAll_append, List.length_append, ← Nat.add_assoc, run_bind,
    part start _ exact.1 rfl]
  exact nexts _ exact.2

/-- A part without fields is followed by what reads all of them to the end. -/
theorem bind_first {first : Decoder β} {next : β → Decoder α} {middle : β}
    (part : Decodes first [] middle) (nexts : ReadsToEnd (next middle) fields value start) :
    ReadsToEnd (first.bind next) fields value start := by
  intro exact
  have started := part start start (List.forall_mem_nil _) rfl (codeAll fields start)
  rw [codeAll, List.nil_append] at started
  rw [run_bind, started]
  exact nexts exact

/-- A part that reads to the end is followed by what reads nothing. -/
theorem bind_last {first : Decoder β} {next : β → Decoder α} {middle : β}
    (part : ReadsToEnd first fields middle start) (nexts : next middle = Decoder.done value) :
    ReadsToEnd (first.bind next) fields value start := by
  intro exact
  rw [run_bind, part exact]
  simp only [nexts, run]

end ReadsToEnd

/-! ## Reading in front of trailing bits -/

/-- The bits of exact fields, from the position `start`, are decoded to the value where they are the
last ones in front of trailing bits. -/
def ReadsBeforeTrailing (decoder : Decoder α) (fields : List CodedField) (value : α) (start : Nat) :
    Prop :=
  (∀ field ∈ fields, field.Exact) → ∀ zeros,
    decoder.run (before start (codeAll fields start ++ true :: List.replicate zeros false)) =
      (.ok value,
        before (start + (codeAll fields start).length) (true :: List.replicate zeros false))

namespace ReadsBeforeTrailing

variable {start : Nat} {value : α} {middle : β} {front back fields : List CodedField}
  {first : Decoder β} {next : β → Decoder α}

theorem within {structureName : String} {offset : Option Nat} {part : Decoder α}
    (reads : ReadsBeforeTrailing part fields value start) :
    ReadsBeforeTrailing (Decoder.within structureName offset part Decoder.done) fields value
      start := by
  intro exact zeros
  rw [run_within, reads exact zeros]
  rfl

/-- A part is followed by what reads the fields behind it back, wherever the part ends. -/
theorem bind (part : Decodes first front middle)
    (nexts : ∀ mid, ReadsBeforeTrailing (next middle) back value mid) :
    ReadsBeforeTrailing (first.bind next) (front ++ back) value start := by
  intro exact zeros
  rw [List.forall_mem_append] at exact
  rw [CodedField.codeAll_append, List.length_append, ← Nat.add_assoc, List.append_assoc, run_bind,
    part start _ exact.1 rfl]
  exact nexts _ exact.2 zeros

/-- The last part is followed by what reads nothing. -/
theorem bind_last (part : Decodes first fields middle)
    (nexts : next middle = Decoder.done value) :
    ReadsBeforeTrailing (first.bind next) fields value start := by
  intro exact zeros
  rw [run_bind, part start _ exact rfl]
  simp only [nexts, run]

/-- Whether more data is in front of the trailing bits is whether a field is left that has bits. -/
theorem hasMoreData_bind {next : Bool → Decoder α}
    (nexts : ReadsBeforeTrailing (next (decide (codeAll fields start ≠ []))) fields value start) :
    ReadsBeforeTrailing (Decoder.hasMoreData.bind next) fields value start := by
  intro exact zeros
  have hasMore_eq :
      (before start (codeAll fields start ++ true :: List.replicate zeros false)).hasMoreData =
        decide (codeAll fields start ≠ []) := by
    rw [Bool.eq_iff_iff, decide_eq_true_iff]
    exact Reader.hasMoreData_before start (codeAll fields start) zeros
  have following := nexts exact zeros
  rw [← hasMore_eq] at following
  exact following

end ReadsBeforeTrailing

/-- What reads fields in front of trailing bits is followed by what reads the trailing bits. -/
theorem ReadsToEnd.bind_beforeTrailing {first : Decoder β} {next : β → Decoder α}
    {fields : List CodedField} {middle : β} {value : α} {start : Nat}
    (part : ReadsBeforeTrailing first fields middle start)
    (nexts : ∀ mid, ReadsToEnd (next middle) [.trailing] value mid) :
    ReadsToEnd (first.bind next) (fields ++ [.trailing]) value start := by
  intro exact
  rw [List.forall_mem_append] at exact
  have read := part exact.1
    (Bits.toBoundary (start + (codeAll fields start).length + 1))
  have following := nexts (start + (codeAll fields start).length) exact.2
  rw [CodedField.codeAll_append, List.length_append, ← Nat.add_assoc]
  simp only [codeAll, CodedField.code, List.append_nil] at read following ⊢
  rw [run_bind, read]
  exact following

end Decoder

end CodedVideo
