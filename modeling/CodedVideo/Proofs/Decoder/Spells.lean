import CodedVideo.Proofs.CodeEndings
import CodedVideo.Proofs.Decoder.ReadsBack
import CodedVideo.Proofs.NalUnit.Payload

/-!
# Spelling of decoded values

What a decoder reads back need not be all that it accepts. A decoder spells its values if a run
passes, on its way to a value, bits from which fields are read that the value determines, up to what
a relation leaves open. In few enough bits a field is read from its code alone. Then there is no
other way to code the value than that of the relation, and what follows is read right behind those
fields.

Main statements: `Spells.bind` for sequences and `Spells.timesIndexed` for lists.
-/

namespace CodedVideo

open PlainReader (before)
open CodedField (codeAll flagged onlyIf present)

/-! ## Bits from which fields are read -/

namespace CodedField

/-- The bits at `start` from which a field is read: those of its code and, for an unsigned value, all
from which it is read. -/
inductive ReadFrom (start : Nat) : CodedField → List Bool → Prop where
  | code (field : CodedField) : ReadFrom start field (field.code start)
  | unsigned {value : Nat} {front : List Bool}
      (readAs : ExpGolomb.ReadAs ExpGolomb.wrappedCount value front) :
      ReadFrom start (.unsigned value) front

/-- The bits at `start` from which fields are read one after another. -/
inductive ReadAllFrom : Nat → List CodedField → List Bool → Prop where
  | nil (start : Nat) : ReadAllFrom start [] []
  | cons {start : Nat} {field : CodedField} {front : List Bool} {fields : List CodedField}
      {back : List Bool} (read : field.ReadFrom start front)
      (reads : ReadAllFrom (start + front.length) fields back) :
      ReadAllFrom start (field :: fields) (front ++ back)

theorem ReadFrom.all {start : Nat} {field : CodedField} {front : List Bool}
    (read : field.ReadFrom start front) : ReadAllFrom start [field] front := by
  rw [← List.append_nil front]
  exact .cons read (.nil _)

theorem ReadAllFrom.append {start : Nat} {fields others : List CodedField} {front back : List Bool}
    (reads : ReadAllFrom start fields front)
    (behind : ReadAllFrom (start + front.length) others back) :
    ReadAllFrom start (fields ++ others) (front ++ back) := by
  induction reads with
  | nil start => exact behind
  | cons read reads inductionHypothesis =>
      rw [List.append_assoc]
      refine .cons read (inductionHypothesis ?_)
      rwa [List.length_append, ← Nat.add_assoc] at behind

/-- In at most `2 ^ 32` bits all zeros are counted. -/
theorem ReadFrom.eq_code {start : Nat} {field : CodedField} {front : List Bool}
    (read : field.ReadFrom start front) (fits : front.length ≤ 4294967296) :
    front = field.code start := by
  cases read with
  | code => rfl
  | unsigned readAs =>
      refine ExpGolomb.readAs_id_iff.mp (readAs.congr fun zeros isFewer => ?_)
      exact ExpGolomb.wrappedCount_eq (Nat.lt_of_lt_of_le isFewer fits)

theorem ReadAllFrom.eq_codeAll {start : Nat} {fields : List CodedField} {front : List Bool}
    (reads : ReadAllFrom start fields front) (fits : front.length ≤ 4294967296) :
    front = codeAll fields start := by
  induction reads with
  | nil start => rfl
  | cons read reads inductionHypothesis =>
      rw [List.length_append] at fits
      rw [codeAll, ← read.eq_code (by omega), inductionHypothesis (by omega)]

end CodedField

/-! ## Numbers -/

namespace Reader

variable {start count value : Nat} {decoded : List Bool} {last : PlainReader}

/-- A number that is read stands in the bits in front of the reader. -/
theorem exists_bits_of_readBits
    (read : readBits count (before start decoded) = (.ok value, last)) :
    count ≤ 32 ∧ ∃ front rest, decoded = front ++ rest ∧ front.length = count ∧
      value = Bits.toNat front ∧ last = before (start + count) rest := by
  have fits : count ≤ 32 := by
    apply Nat.le_of_not_lt
    intro tooWide
    have noFault : (before start decoded).fault = none := rfl
    simp only [readBits, noFault, if_pos tooWide, fail] at read
    cases read
  by_cases short : decoded.length < count
  · rw [readBits_short start fits short] at read
    cases read
  · obtain ⟨front, rest, rfl, length_eq⟩ :
        ∃ front rest, front ++ rest = decoded ∧ front.length = count :=
      ⟨decoded.take count, decoded.drop count, List.take_append_drop count decoded,
        List.length_take_of_le (Nat.le_of_not_lt short)⟩
    rw [readBits_before start length_eq fits] at read
    cases read
    exact ⟨fits, front, rest, rfl, length_eq, rfl, rfl⟩

/-- The two parts of a wide number stand one behind the other. -/
theorem exists_bits_of_readWideBits
    (read : readWideBits count (before start decoded) = (.ok value, last)) :
    count ≤ 64 ∧ ∃ front rest, decoded = front ++ rest ∧ front.length = count ∧
      value = Bits.toNat front ∧ last = before (start + count) rest := by
  rw [readWideBits] at read
  split at read
  · cases read
  · next notTooWide =>
      refine ⟨Nat.le_of_not_lt notTooWide, ?_⟩
      split at read
      · exact (exists_bits_of_readBits read).2
      · next isWide =>
          obtain ⟨high, middle, highRead, behind⟩ := bind_eq_ok read
          obtain ⟨low, behindLow, lowRead, joined⟩ := bind_eq_ok behind
          obtain ⟨_, front, others, rfl, frontLength, rfl, rfl⟩ := exists_bits_of_readBits highRead
          obtain ⟨_, back, rest, rfl, backLength, rfl, rfl⟩ := exists_bits_of_readBits lowRead
          cases joined
          refine ⟨front ++ back, rest, (List.append_assoc _ _ _).symm, ?_, ?_, ?_⟩
          · rw [List.length_append, frontLength, backLength]
            omega
          · rw [Bits.toNat_append, backLength]
          · rw [Nat.add_assoc]
            congr 1
            omega

end Reader

namespace Decoder

variable {α β : Type}

/-- Each run that gives a value passes bits from which exact fields are read that are related to the
value. -/
structure Spells (decoder : Decoder α) (related : α → List CodedField → Prop) : Prop where
  of_run : ∀ (start : Nat) (decoded : List Bool) (value : α) (last : PlainReader),
    decoder.run (before start decoded) = (.ok value, last) →
      ∃ fields front rest, related value fields ∧ (∀ field ∈ fields, field.Exact) ∧
        CodedField.ReadAllFrom start fields front ∧ decoded = front ++ rest ∧
        last = before (start + front.length) rest

namespace Spells

variable {related weaker : α → List CodedField → Prop}

/-! ## Sequences -/

theorem done {value : α} (holds : related value []) : Spells (Decoder.done value) related := by
  constructor
  intro start decoded result last run_eq
  cases run_eq
  exact ⟨[], [], decoded, holds, List.forall_mem_nil _, .nil start, rfl, rfl⟩

theorem abort {error : Error} : Spells (Decoder.abort error) related := by
  constructor
  intro start decoded result last run_eq
  cases run_eq

theorem weaken {decoder : Decoder α} (spells : Spells decoder related)
    (weakens : ∀ value fields, related value fields → weaker value fields) :
    Spells decoder weaker := by
  constructor
  intro start decoded value last run_eq
  obtain ⟨fields, front, rest, holds, spelled⟩ := spells.of_run start decoded value last run_eq
  exact ⟨fields, front, rest, weakens value fields holds, spelled⟩

/-- Fields that the value determines are so without a condition. -/
theorem unconditional {decoder : Decoder α} {coding : α → List CodedField}
    (spells : Spells decoder fun value fields => fields = coding value) :
    Spells decoder fun value fields => fields = coding value ∧ True :=
  spells.weaken fun _ _ fields_eq => ⟨fields_eq, trivial⟩

/-- A sequence passes the fields of its first part, and behind them those of its second part. -/
theorem bind {first : Decoder β} {next : β → Decoder α} {opening : β → List CodedField → Prop}
    (spells : Spells first opening)
    (nexts : ∀ middle opened, opening middle opened →
      Spells (next middle) fun value fields => related value (opened ++ fields)) :
    Spells (first.bind next) related := by
  constructor
  intro start decoded value last run_eq
  obtain ⟨middle, behind, first_eq, next_eq⟩ := ok_of_run_bind run_eq
  obtain ⟨opened, front, others, isOpened, openedExact, openedReads, rfl, rfl⟩ :=
    spells.of_run start decoded middle behind first_eq
  obtain ⟨fields, back, rest, holds, exact, reads, rfl, rfl⟩ :=
    (nexts middle opened isOpened).of_run _ others value last next_eq
  refine ⟨opened ++ fields, front ++ back, rest, holds,
    List.forall_mem_append.mpr ⟨openedExact, exact⟩, openedReads.append reads, ?_, ?_⟩
  · rw [List.append_assoc]
  · rw [List.length_append, Nat.add_assoc]

/-- Behind a part that has the fields of its value stand those of what follows. -/
theorem behind {first : Decoder β} {next : β → Decoder α} {coding : β → List CodedField}
    (spells : Spells first fun middle opened => opened = coding middle)
    (nexts : ∀ middle, Spells (next middle) fun value fields =>
      related value (coding middle ++ fields)) :
    Spells (first.bind next) related := by
  refine bind spells fun middle opened isOpened => ?_
  rw [isOpened]
  exact nexts middle

/-- Naming the structure of a part changes nothing of what it passes. -/
theorem within {structureName : String} {offset : Option Nat} {part : Decoder α}
    (spells : Spells part related) :
    Spells (Decoder.within structureName offset part Decoder.done) related := by
  constructor
  intro start decoded value last run_eq
  exact spells.of_run start decoded value last (ok_of_run_within run_eq)

/-! ## Single reads -/

/-- A read passes one field, if each answer to it does. -/
theorem ask {query : Query α} {field : α → CodedField}
    (answers : ∀ {start decoded value last},
      query.answer (before start decoded) = (.ok value, last) →
        (field value).Exact ∧ ∃ front rest, (field value).ReadFrom start front ∧
          decoded = front ++ rest ∧ last = before (start + front.length) rest) :
    Spells (Decoder.ask query Decoder.done) fun value fields => fields = [field value] := by
  constructor
  intro start decoded value last run_eq
  rw [run_ask] at run_eq
  rcases answer_eq : query.answer (before start decoded) with ⟨fault | answer, behind⟩
  · rw [answer_eq] at run_eq
    cases run_eq
  · rw [answer_eq] at run_eq
    cases run_eq
    obtain ⟨exact, front, rest, read, decoded_eq, last_eq⟩ := answers answer_eq
    exact ⟨[field value], front, rest, rfl, List.forall_mem_singleton.mpr exact, read.all,
      decoded_eq, last_eq⟩

theorem bits (count : Nat) :
    Spells (Decoder.bits count) fun value fields => fields = [.bits value count] := by
  apply ask
  intro start decoded value last read
  obtain ⟨fits, front, rest, rfl, rfl, rfl, rfl⟩ := Reader.exists_bits_of_readBits read
  have isRead : CodedField.ReadFrom start _ _ := .code (.bits (Bits.toNat front) front.length)
  rw [CodedField.code, Bits.ofNat_toNat] at isRead
  exact ⟨CodedField.exact_bits fits (Bits.toNat_lt front), front, rest, isRead, rfl, rfl⟩

theorem wideBits (count : Nat) :
    Spells (Decoder.wideBits count) fun value fields => fields = [.wideBits value count] := by
  apply ask
  intro start decoded value last read
  obtain ⟨fits, front, rest, rfl, rfl, rfl, rfl⟩ := Reader.exists_bits_of_readWideBits read
  have isRead : CodedField.ReadFrom start _ _ := .code (.wideBits (Bits.toNat front) front.length)
  rw [CodedField.code, Bits.ofNat_toNat] at isRead
  refine ⟨⟨fits, ?_⟩, front, rest, isRead, rfl, rfl⟩
  rw [CodedField.kept, Nat.mod_eq_of_lt (Bits.toNat_lt front)]

theorem flag : Spells Decoder.flag fun value fields => fields = [.flag value] := by
  apply ask
  intro start decoded value last read
  obtain ⟨number, behind, bitRead, flagRead⟩ := Reader.bind_eq_ok read
  obtain ⟨_, front, rest, rfl, length_eq, rfl, rfl⟩ := Reader.exists_bits_of_readBits bitRead
  obtain ⟨bit, rfl⟩ := List.length_eq_one_iff.mp length_eq
  refine ⟨⟨trivial, rfl⟩, [bit], rest, ?_⟩
  cases flagRead
  cases bit with
  | true => exact ⟨.code (.flag true), rfl, rfl⟩
  | false => exact ⟨.code (.flag false), rfl, rfl⟩

theorem unsigned : Spells Decoder.unsigned fun value fields => fields = [.unsigned value] := by
  apply ask
  intro start decoded value last read
  -- The bits decide how the read ends, and it has ended with a value.
  obtain ⟨result, count, ending⟩ :=
    CodeEnding.exists_of_bits ExpGolomb.wrappedCount CarriesUnsigned decoded
  have ended : Reader.readUnsigned (before start decoded) = _ :=
    Reader.read_of_codeEnding Reader.checksCarried_unsigned ending start
  obtain ⟨rfl, last_eq⟩ := Prod.mk.inj (read.symm.trans ended)
  cases ending with
  | @value front rest number _ readAs carried =>
      rcases carried with ⟨rfl, inRange⟩
      rw [List.drop_left] at last_eq
      exact ⟨⟨Nat.lt_succ_of_le inRange, rfl⟩, front, rest, .unsigned readAs, rfl, last_eq⟩

/-! ## Composite forms -/

theorem require {condition : Bool} {error : Error} :
    Spells (Decoder.require condition error) fun _ fields => condition = true ∧ fields = [] := by
  cases condition with
  | true => exact done ⟨rfl, rfl⟩
  | false => exact abort

/-- Behind a requirement its condition holds. -/
theorem behindRequire {condition : Bool} {error : Error} {next : Unit → Decoder α}
    (nexts : condition = true → Spells (next ()) related) :
    Spells ((Decoder.require condition error).bind next) related := by
  apply bind require
  rintro middle _ ⟨holds, rfl⟩
  exact nexts holds

theorem boundedUnsigned {structureName name : String} {limit : Nat} :
    Spells (Decoder.boundedUnsigned structureName name limit) fun value fields =>
      fields = [.unsigned value] ∧ value ≤ limit := by
  refine behind unsigned fun value => ?_
  split
  · next inRange => exact done ⟨rfl, inRange⟩
  · exact abort

/-- A part that is there under a condition has its fields under that condition. -/
theorem whenElse {isThere : Bool} {absent : α} {part : Decoder α} {coding : α → List CodedField}
    {condition : α → Prop}
    (spells : Spells part fun value fields => fields = coding value ∧ condition value) :
    Spells (Decoder.whenElse isThere absent part) fun value fields =>
      fields = onlyIf isThere (coding value) ∧ (isThere = true → condition value) ∧
        (isThere = false → value = absent) := by
  cases isThere with
  | true =>
      apply spells.weaken
      rintro value _ ⟨rfl, holds⟩
      exact ⟨rfl, fun _ => holds, nofun⟩
  | false => exact done ⟨rfl, nofun, fun _ => rfl⟩

/-- A part that may be absent has its fields where it is there. -/
theorem optional {isThere : Bool} {part : Decoder α} {coding : α → List CodedField}
    {condition : α → Prop}
    (spells : Spells part fun value fields => fields = coding value ∧ condition value) :
    Spells (Decoder.optional isThere part) fun value? fields =>
      fields = present coding value? ∧ value?.isSome = isThere ∧
        ∀ value ∈ value?, condition value := by
  cases isThere with
  | false => exact done ⟨rfl, rfl, nofun⟩
  | true =>
      apply bind spells
      rintro value _ ⟨rfl, holds⟩
      refine done ⟨List.append_nil _, rfl, ?_⟩
      rintro _ ⟨⟩
      exact holds

/-! ## Repetition -/

/-- Values that are decoded one after another, each knowing its index, have their fields one after
another. -/
theorem foldFrom_cons {item : Nat → Decoder α} {coding : α → Nat → List CodedField}
    {condition : α → Nat → Prop}
    (items : ∀ index, Spells (item index) fun value fields =>
      fields = coding value index ∧ condition value index)
    (count index : Nat) (others : List α) :
    Spells (Decoder.foldFrom
        (fun index values => (item index).bind fun value => Decoder.done (value :: values))
        count index others) fun result fields =>
      ∃ values : List α, result = values.reverse ++ others ∧ values.length = count ∧
        fields = (values.zipIdx index).flatMap (fun entry => coding entry.1 entry.2) ∧
        ∀ entry ∈ values.zipIdx index, condition entry.1 entry.2 := by
  induction count generalizing index others with
  | zero => exact done ⟨[], rfl, rfl, rfl, List.forall_mem_nil _⟩
  | succ count inductionHypothesis =>
      rw [Decoder.foldFrom, bind_assoc]
      apply bind (items index)
      rintro value _ ⟨rfl, holds⟩
      apply (inductionHypothesis (index + 1) (value :: others)).weaken
      rintro _ _ ⟨values, rfl, rfl, rfl, hold⟩
      refine ⟨value :: values, ?_, rfl, rfl, ?_⟩
      · rw [List.reverse_cons, List.append_assoc, List.singleton_append]
      · exact List.forall_mem_cons.mpr ⟨holds, hold⟩

/-- Values that are decoded and coded by their index are passed one after another. -/
theorem timesIndexed {item : Nat → Decoder α} {coding : α → Nat → List CodedField}
    {condition : α → Nat → Prop}
    (items : ∀ index, Spells (item index) fun value fields =>
      fields = coding value index ∧ condition value index) (count : Nat) :
    Spells (Decoder.times count item) fun values fields =>
      fields = values.zipIdx.flatMap (fun entry => coding entry.1 entry.2) ∧
        values.length = count ∧ ∀ entry ∈ values.zipIdx, condition entry.1 entry.2 := by
  apply bind (foldFrom_cons items count 0 [])
  rintro _ _ ⟨values, rfl, length_eq, rfl, hold⟩
  refine done ?_
  rw [List.append_nil, List.append_nil, List.reverse_reverse]
  exact ⟨rfl, length_eq, hold⟩

theorem replicate {item : Decoder α} {coding : α → List CodedField} {condition : α → Prop}
    (spells : Spells item fun value fields => fields = coding value ∧ condition value)
    (count : Nat) :
    Spells (Decoder.replicate count item) fun values fields =>
      fields = values.flatMap coding ∧ values.length = count ∧
        ∀ value ∈ values, condition value := by
  apply (timesIndexed (fun _ => spells) count).weaken
  rintro values _ ⟨rfl, length_eq, hold⟩
  refine ⟨?_, length_eq, fun value isValue => ?_⟩
  · rw [← List.flatMap_map Prod.fst coding, List.zipIdx_map_fst]
  · rw [← List.zipIdx_map_fst 0 values] at isValue
    obtain ⟨entry, isEntry, rfl⟩ := List.mem_map.mp isValue
    exact hold entry isEntry

/-- Values that each tell the key they were decoded with are passed one after another. -/
theorem eachOnto {κ : Type} {item : κ → Decoder α} {coding : α → List CodedField} {key : α → κ}
    (items : ∀ known, Spells (item known) fun value fields =>
      fields = coding value ∧ key value = known) (keys : List κ) (others : List α) :
    Spells (Decoder.eachOnto item keys others) fun result fields =>
      ∃ values, result = others.reverse ++ values ∧ fields = values.flatMap coding ∧
        values.map key = keys := by
  induction keys generalizing others with
  | nil => exact done ⟨[], (List.append_nil _).symm, rfl, rfl⟩
  | cons known keys inductionHypothesis =>
      apply bind (items known)
      rintro value _ ⟨rfl, rfl⟩
      apply (inductionHypothesis (value :: others)).weaken
      rintro _ _ ⟨values, rfl, rfl, rfl⟩
      refine ⟨value :: values, ?_, rfl, rfl⟩
      rw [List.reverse_cons, List.append_assoc, List.singleton_append]

theorem each {κ : Type} {item : κ → Decoder α} {coding : α → List CodedField} {key : α → κ}
    (items : ∀ known, Spells (item known) fun value fields =>
      fields = coding value ∧ key value = known) (keys : List κ) :
    Spells (Decoder.each keys item) fun values fields =>
      fields = values.flatMap coding ∧ values.map key = keys := by
  apply (eachOnto items keys []).weaken
  rintro _ _ ⟨values, rfl, rfl, rfl⟩
  exact ⟨rfl, rfl⟩

/-! ## Units -/

/-- The payload of a unit opens with bits from which the fields of the first part are read, and what
follows is decoded from the bits behind them. -/
theorem of_decodeUnit {first : Decoder β} {next : β → Decoder α}
    {opening : β → List CodedField → Prop} (spells : Spells first opening) {unit : List UInt8}
    {value : α} (isDecoded : (first.bind next).decodeUnit unit = .ok value) :
    ∃ middle fields front rest last, opening middle fields ∧ (∀ field ∈ fields, field.Exact) ∧
      CodedField.ReadAllFrom 0 fields front ∧
      Bits.ofBytes (Emulation.remove unit) = front ++ rest ∧
      (next middle).run (before front.length rest) = (.ok value, last) := by
  rw [decodeUnit_eq_run_payload] at isDecoded
  rcases run_eq : (first.bind next).run (PlainReader.ofBytes (Emulation.remove unit)) with
    ⟨result, last⟩
  rw [run_eq] at isDecoded
  cases isDecoded
  obtain ⟨middle, behind, first_eq, next_eq⟩ := ok_of_run_bind run_eq
  obtain ⟨fields, front, rest, isOpened, exact, reads, payload_eq, rfl⟩ :=
    spells.of_run 0 (Bits.ofBytes (Emulation.remove unit)) middle behind first_eq
  rw [Nat.zero_add] at next_eq
  exact ⟨middle, fields, front, rest, last, isOpened, exact, reads, payload_eq, next_eq⟩

end Spells

/-- Where trailing bits are accepted, a one and zeros are left. -/
theorem unread_of_run_trailingBits {structureName : String} {reader last : PlainReader}
    (run_eq : (located structureName trailingBits).run reader = (.ok (), last)) :
    ∃ zeros, reader.source.unread = true :: List.replicate zeros false := by
  have trailing_eq := ok_of_run_within run_eq
  rw [trailingBits, run_ask] at trailing_eq
  rcases answer_eq : Query.trailingBits.answer reader with ⟨fault | answer, behind⟩
  · rw [answer_eq] at trailing_eq
    cases trailing_eq
  · exact (Reader.unread_of_readTrailingBits answer_eq).2

end Decoder

end CodedVideo
