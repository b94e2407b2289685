import CodedVideo.NalUnit.Sample
import CodedVideo.Proofs.NalUnit.ByteStream

/-!
# Units in samples

A sample is a row of records, each a length field and as many bytes as the field says. Behind its
records it ends, or a part of a record is left, in which the bytes end too early. Splitting takes the
records off one by one, so it fails exactly where such a part is left.

Main statements: `split_outcome`, `ofByteStream_outcome`.
-/

namespace CodedVideo.Sample

/-! ## Length fields -/

theorem length_lengthField (count value : Nat) : (lengthField count value).length = count := by
  induction count with
  | zero => rfl
  | succ count inductionHypothesis => rw [lengthField, List.length_cons, inductionHypothesis]

/-- Behind a number, a length field adds its bytes. -/
theorem foldl_lengthField (count value front : Nat) :
    (lengthField count value).foldl (fun value byte => value * 256 + byte.toNat) front =
      front * 1 <<< (8 * count) + value % 1 <<< (8 * count) := by
  induction count generalizing front with
  | zero => simp [lengthField, Nat.mod_one]
  | succ count inductionHypothesis =>
      have power_eq : 1 <<< (8 * (count + 1)) = 1 <<< (8 * count) * 256 := by
        rw [Nat.mul_succ, Nat.shiftLeft_add, Nat.shiftLeft_eq _ 8]
      have shift_eq : value >>> (8 * count) = value / 1 <<< (8 * count) := by
        rw [Nat.shiftRight_eq_div_pow, Nat.one_shiftLeft]
      have byte_eq : (UInt8.ofNat (value / 1 <<< (8 * count))).toNat =
          value / 1 <<< (8 * count) % 256 := UInt8.toNat_ofNat'
      rw [lengthField, List.foldl_cons, inductionHypothesis, shift_eq, byte_eq, power_eq,
        Nat.mod_mul]
      generalize 1 <<< (8 * count) = power
      rw [Nat.add_mul, Nat.mul_assoc, Nat.mul_comm 256 power, Nat.add_assoc,
        Nat.mul_comm (value / power % 256), Nat.add_comm (power * _)]

/-- A length is read from the field that it is written in. -/
theorem lengthOf_lengthField {lengthSize length : Nat} (fits : length < 1 <<< (8 * lengthSize)) :
    lengthOf (lengthField lengthSize length) = length := by
  rw [lengthOf, foldl_lengthField, Nat.zero_mul, Nat.zero_add]
  exact Nat.mod_eq_of_lt fits

/-- The bytes of a field stand below the number in front of them. -/
theorem foldl_shiftRight (field : List UInt8) (front : Nat) :
    field.foldl (fun value byte => value * 256 + byte.toNat) front >>> (8 * field.length) =
      front := by
  induction field generalizing front with
  | nil => rfl
  | cons byte field inductionHypothesis =>
      have byte_lt := byte.toNat_lt
      rw [List.foldl_cons, List.length_cons, Nat.mul_succ 8, Nat.shiftRight_add,
        inductionHypothesis, Nat.shiftRight_eq_div_pow]
      omega

/-- A field is written again for the length that is read from it. -/
theorem lengthField_foldl (field : List UInt8) (front : Nat) :
    lengthField field.length (field.foldl (fun value byte => value * 256 + byte.toNat) front) =
      field := by
  induction field generalizing front with
  | nil => rfl
  | cons byte field inductionHypothesis =>
      have byte_eq : UInt8.ofNat (front * 256 + byte.toNat) = byte := by
        apply UInt8.toNat_inj.mp
        have byte_lt := byte.toNat_lt
        rw [UInt8.toNat_ofNat']
        omega
      rw [List.foldl_cons, List.length_cons, lengthField, foldl_shiftRight, byte_eq,
        inductionHypothesis]

/-- The length in a field fits that field. -/
theorem lengthOf_lt (field : List UInt8) : lengthOf field < 1 <<< (8 * field.length) := by
  have shift_eq : lengthOf field >>> (8 * field.length) = 0 := foldl_shiftRight field 0
  rw [Nat.shiftRight_eq_div_pow, Nat.div_eq_zero_iff] at shift_eq
  rw [Nat.one_shiftLeft]
  exact shift_eq.resolve_left (Nat.pos_iff_ne_zero.mp (Nat.two_pow_pos _))

/-! ## Length sizes -/

/-- The numbers of bytes that a length field can have. -/
def IsLengthSize (lengthSize : Nat) : Prop :=
  lengthSize = 1 ∨ lengthSize = 2 ∨ lengthSize = 4

theorem IsLengthSize.exists_size {lengthSize : Nat} (sized : IsLengthSize lengthSize) :
    ∃ size : LengthSize, size.bytes = lengthSize := by
  rcases sized with rfl | rfl | rfl
  · exact ⟨.one, rfl⟩
  · exact ⟨.two, rfl⟩
  · exact ⟨.four, rfl⟩

theorem LengthSize.isLengthSize_bytes (size : LengthSize) : IsLengthSize size.bytes := by
  cases size <;> simp [IsLengthSize, bytes]

/-- A length size is found by its number of bytes. -/
theorem LengthSize.ofNat?_bytes (size : LengthSize) : ofNat? size.bytes = .ok size := by
  cases size <;> rfl

/-- Any other number of bytes is refused. -/
theorem LengthSize.ofNat?_eq_error {lengthSize : Nat} (unsized : ¬ IsLengthSize lengthSize) :
    ofNat? lengthSize =
      .error (.malformed structureName s!"invalid NAL length size {lengthSize}") := by
  simp only [IsLengthSize, not_or] at unsized
  unfold ofNat?
  split
  · exact absurd rfl unsized.1
  · exact absurd rfl unsized.2.1
  · exact absurd rfl unsized.2.2
  · rfl

/-! ## Records -/

/-- The length of the unit can be written in `lengthSize` bytes: it is below 256 to that power. -/
def Fits (lengthSize : Nat) (unit : List UInt8) : Prop :=
  unit.length < 1 <<< (8 * lengthSize)

/-- The bytes of units, each behind its length in `lengthSize` bytes. -/
def records (lengthSize : Nat) (units : List (List UInt8)) : List UInt8 :=
  units.flatMap fun unit => lengthField lengthSize unit.length ++ unit

theorem records_cons (lengthSize : Nat) (unit : List UInt8) (units : List (List UInt8)) :
    records lengthSize (unit :: units) =
      lengthField lengthSize unit.length ++ (unit ++ records lengthSize units) := by
  rw [records, List.flatMap_cons, List.append_assoc, ← records]

/-- A part of a record, and what is said of it where a record should stand. -/
inductive Broken (lengthSize : Nat) : List UInt8 → String → Prop where
  /-- The bytes end inside a length field. -/
  | field (bytes : List UInt8) (isThere : bytes ≠ []) (short : bytes.length < lengthSize) :
      Broken lengthSize bytes "truncated NAL length field"
  /-- The bytes end inside a unit. -/
  | body (field body : List UInt8) (sized : field.length = lengthSize)
      (short : body.length < lengthOf field) :
      Broken lengthSize (field ++ body)
        s!"NAL length {lengthOf field} exceeds remaining {body.length} bytes"

/-- Bytes are at their end, open with a record, or are a part of one. -/
theorem record_cases {lengthSize : Nat} (sized : 0 < lengthSize) (bytes : List UInt8) :
    bytes = [] ∨
      (∃ unit rest, Fits lengthSize unit ∧ rest.length < bytes.length ∧
        bytes = lengthField lengthSize unit.length ++ (unit ++ rest)) ∨
      ∃ text, Broken lengthSize bytes text := by
  rcases Nat.lt_or_ge bytes.length lengthSize with short | long
  · by_cases isEmpty : bytes = []
    · exact Or.inl isEmpty
    · exact Or.inr (Or.inr ⟨_, .field bytes isEmpty short⟩)
  · obtain ⟨field, body, rfl, rfl⟩ : ∃ field body, bytes = field ++ body ∧
        field.length = lengthSize :=
      ⟨bytes.take lengthSize, bytes.drop lengthSize, (List.take_append_drop _ _).symm,
        List.length_take_of_le long⟩
    rcases Nat.lt_or_ge body.length (lengthOf field) with short | enough
    · exact Or.inr (Or.inr ⟨_, .body field body rfl short⟩)
    · obtain ⟨unit, rest, rfl, unit_length⟩ : ∃ unit rest, body = unit ++ rest ∧
          unit.length = lengthOf field :=
        ⟨body.take (lengthOf field), body.drop (lengthOf field), (List.take_append_drop _ _).symm,
          List.length_take_of_le enough⟩
      refine Or.inr (Or.inl ⟨unit, rest, ?_, ?_, ?_⟩)
      · rw [Fits, unit_length]
        exact lengthOf_lt field
      · simp only [List.length_append]
        omega
      · rw [unit_length, lengthOf, lengthField_foldl]

/-- Bytes are a row of records and, unless they end with it, a part of a record. -/
theorem exists_records_append {lengthSize : Nat} (sized : 0 < lengthSize) (bytes : List UInt8) :
    ∃ units rest, (∀ unit ∈ units, Fits lengthSize unit) ∧
      bytes = records lengthSize units ++ rest ∧
        (rest = [] ∨ ∃ text, Broken lengthSize rest text) := by
  induction length_eq : bytes.length using Nat.strongRecOn generalizing bytes with
  | ind length inductionHypothesis =>
      subst length_eq
      rcases record_cases sized bytes with isEmpty | ⟨unit, behind, fits, shorter, rfl⟩ | isBroken
      · exact ⟨[], bytes, List.forall_mem_nil _, rfl, Or.inl isEmpty⟩
      · obtain ⟨units, rest, fit, rfl, ending⟩ :=
          inductionHypothesis behind.length shorter behind rfl
        refine ⟨unit :: units, rest, List.forall_mem_cons.mpr ⟨fits, fit⟩, ?_, ending⟩
        rw [records_cons, List.append_assoc, List.append_assoc]
      · exact ⟨[], bytes, List.forall_mem_nil _, rfl, Or.inr isBroken⟩

/-! ## Splitting and joining -/

/-- Units that fit are joined to their records, and no others are joined. -/
theorem joinUnits_eq_ok_iff (size : LengthSize) (units : List (List UInt8)) (sample : List UInt8) :
    joinUnits size units = .ok sample ↔
      (∀ unit ∈ units, Fits size.bytes unit) ∧ sample = records size.bytes units := by
  induction units generalizing sample with
  | nil =>
      rw [joinUnits, and_iff_right (List.forall_mem_nil _), Except.ok.injEq, eq_comm]
      rfl
  | cons unit units inductionHypothesis =>
      rw [joinUnits, List.forall_mem_cons, records_cons, Fits, ← Nat.not_le]
      by_cases long : 1 <<< (8 * size.bytes) ≤ unit.length
      · simp [long]
      · simp only [long, if_false, not_false_eq_true, true_and]
        cases others_eq : joinUnits size units with
        | ok others =>
            obtain ⟨fit, rfl⟩ := (inductionHypothesis others).mp others_eq
            rw [and_iff_right fit, Except.ok.injEq, eq_comm, List.append_assoc]
        | error error =>
            refine iff_of_false (by rintro ⟨⟩) fun joined => ?_
            have others_ok := (inductionHypothesis _).mpr ⟨joined.1, rfl⟩
            rw [others_eq] at others_ok
            contradiction

theorem splitUnits_nil (size : LengthSize) : splitUnits size [] = .ok [] := by
  rw [splitUnits]
  rfl

/-- A sample that opens with a unit behind its length holds that unit. -/
theorem splitUnits_append {size : LengthSize} {unit : List UInt8} (fits : Fits size.bytes unit)
    (rest : List UInt8) :
    splitUnits size (lengthField size.bytes unit.length ++ (unit ++ rest)) =
      (splitUnits size rest).map (unit :: ·) := by
  have field_length := length_lengthField size.bytes unit.length
  have size_pos := size.bytes_pos
  have whole_length : (lengthField size.bytes unit.length ++ (unit ++ rest)).length =
      size.bytes + (unit ++ rest).length := by
    rw [List.length_append, field_length]
  have notEmpty : ¬ (lengthField size.bytes unit.length ++ (unit ++ rest)).isEmpty = true := by
    rw [List.isEmpty_iff_length_eq_zero]
    omega
  have notShort : ¬ (lengthField size.bytes unit.length ++ (unit ++ rest)).length < size.bytes := by
    omega
  have notExceeding : ¬ (unit ++ rest).length < unit.length := by
    rw [List.length_append]
    omega
  rw [splitUnits, if_neg notEmpty, dif_neg notShort]
  simp only [List.take_left' field_length, List.drop_left' field_length,
    lengthOf_lengthField fits, if_neg notExceeding, List.take_left, List.drop_left]
  cases splitUnits size rest <;> rfl

/-- A sample that opens with records holds their units. -/
theorem splitUnits_records_append {size : LengthSize} {units : List (List UInt8)}
    (fit : ∀ unit ∈ units, Fits size.bytes unit) (rest : List UInt8) :
    splitUnits size (records size.bytes units ++ rest) =
      (splitUnits size rest).map (units ++ ·) := by
  induction units with
  | nil => cases rest_eq : splitUnits size rest <;> exact rest_eq
  | cons unit units inductionHypothesis =>
      rw [List.forall_mem_cons] at fit
      rw [records_cons, List.append_assoc, List.append_assoc, splitUnits_append fit.1,
        inductionHypothesis fit.2]
      cases splitUnits size rest <;> rfl

/-- A sample of records holds their units. -/
theorem splitUnits_records {size : LengthSize} {units : List (List UInt8)}
    (fit : ∀ unit ∈ units, Fits size.bytes unit) :
    splitUnits size (records size.bytes units) = .ok units := by
  have split_eq := splitUnits_records_append fit []
  rwa [List.append_nil, splitUnits_nil, Except.map, List.append_nil] at split_eq

/-- Where a part of a record stands, a sample is refused. -/
theorem splitUnits_of_broken {size : LengthSize} {bytes : List UInt8} {text : String}
    (isBroken : Broken size.bytes bytes text) :
    splitUnits size bytes = .error (.malformed structureName text) := by
  cases isBroken with
  | field bytes isThere short =>
      have notEmpty : ¬ bytes.isEmpty = true := mt List.isEmpty_iff.mp isThere
      rw [splitUnits, if_neg notEmpty, dif_pos short]
  | body field body sized short =>
      have size_pos := size.bytes_pos
      have notEmpty : ¬ (field ++ body).isEmpty = true := by
        rw [List.isEmpty_iff_length_eq_zero, List.length_append]
        omega
      have notShort : ¬ (field ++ body).length < size.bytes := by
        rw [List.length_append]
        omega
      rw [splitUnits, if_neg notEmpty, dif_neg notShort]
      simp only [List.take_left' sized, List.drop_left' sized, if_pos short]

/-! ## Outcomes -/

/-- Why a sample is refused: there is no such length size, or a part of a record stands behind the
records. -/
inductive Refused (lengthSize : Nat) : List UInt8 → String → Prop where
  | size (sample : List UInt8) (unsized : ¬ IsLengthSize lengthSize) :
      Refused lengthSize sample s!"invalid NAL length size {lengthSize}"
  | broken (units : List (List UInt8)) (rest : List UInt8) (text : String)
      (sized : IsLengthSize lengthSize) (fit : ∀ unit ∈ units, Fits lengthSize unit)
      (isBroken : Broken lengthSize rest text) :
      Refused lengthSize (records lengthSize units ++ rest) text

/-- A sample is a row of records, or it is refused. -/
theorem eq_records_or_refused (sample : List UInt8) (lengthSize : Nat) :
    (∃ units, IsLengthSize lengthSize ∧ (∀ unit ∈ units, Fits lengthSize unit) ∧
        sample = records lengthSize units) ∨ ∃ text, Refused lengthSize sample text := by
  by_cases sized : IsLengthSize lengthSize
  · obtain ⟨size, rfl⟩ := sized.exists_size
    obtain ⟨units, rest, fit, rfl, rfl | ⟨text, isBroken⟩⟩ :=
      exists_records_append size.bytes_pos sample
    · exact Or.inl ⟨units, sized, fit, List.append_nil _⟩
    · exact Or.inr ⟨text, .broken units rest text sized fit isBroken⟩
  · exact Or.inr ⟨_, .size sample sized⟩

/-- A sample of records is split into their units. -/
theorem split_records {lengthSize : Nat} (sized : IsLengthSize lengthSize)
    {units : List (List UInt8)} (fit : ∀ unit ∈ units, Fits lengthSize unit) :
    split (records lengthSize units) lengthSize = .ok units := by
  obtain ⟨size, rfl⟩ := sized.exists_size
  rw [split, LengthSize.ofNat?_bytes]
  exact splitUnits_records fit

theorem split_of_refused {lengthSize : Nat} {sample : List UInt8} {text : String}
    (refused : Refused lengthSize sample text) :
    split sample lengthSize = .error (.malformed structureName text) := by
  rw [split]
  cases refused with
  | size sample unsized => rw [LengthSize.ofNat?_eq_error unsized]; rfl
  | broken units rest text sized fit isBroken =>
      obtain ⟨size, rfl⟩ := sized.exists_size
      rw [LengthSize.ofNat?_bytes]
      change splitUnits size _ = _
      rw [splitUnits_records_append fit, splitUnits_of_broken isBroken]
      rfl

/-- A sample is split into units exactly if it is the row of their records, each with a length that
fits its field. No other units have these records. Any other sample is refused, with a text that
says what stands behind its records, if it is not the length size that is refused. -/
theorem split_outcome (sample : List UInt8) (lengthSize : Nat) :
    (∀ units, split sample lengthSize = .ok units ↔
        IsLengthSize lengthSize ∧ (∀ unit ∈ units, Fits lengthSize unit) ∧
          sample = records lengthSize units) ∧
      (∀ units others, IsLengthSize lengthSize → (∀ unit ∈ units, Fits lengthSize unit) →
        (∀ unit ∈ others, Fits lengthSize unit) →
          records lengthSize units = records lengthSize others → units = others) ∧
      ∀ error, split sample lengthSize = .error error ↔
        ∃ text, Refused lengthSize sample text ∧ error = .malformed structureName text := by
  refine ⟨fun units => ⟨fun isSplit => ?_, ?_⟩, ?_, fun error => ⟨fun failed => ?_, ?_⟩⟩
  · rcases eq_records_or_refused sample lengthSize with ⟨others, sized, fit, rfl⟩ | ⟨_, refused⟩
    · rw [split_records sized fit, Except.ok.injEq] at isSplit
      subst isSplit
      exact ⟨sized, fit, rfl⟩
    · rw [split_of_refused refused] at isSplit
      contradiction
  · rintro ⟨sized, fit, rfl⟩
    exact split_records sized fit
  · intro units others sized fit othersFit records_eq
    have split_eq := split_records sized fit
    rw [records_eq, split_records sized othersFit, Except.ok.injEq] at split_eq
    exact split_eq.symm
  · rcases eq_records_or_refused sample lengthSize with ⟨_, sized, fit, rfl⟩ | ⟨text, refused⟩
    · rw [split_records sized fit] at failed
      contradiction
    · rw [split_of_refused refused, Except.error.injEq] at failed
      exact ⟨text, refused, failed.symm⟩
  · rintro ⟨text, refused, rfl⟩
    exact split_of_refused refused

/-- A sample with an empty unit at its end, and one that is cut off inside its second unit. -/
theorem split_outcome_emptyUnit :
    split [0, 1, 7, 0, 0] 2 = .ok [[7], []] ∧
      split [0, 1, 7, 0, 2, 9] 2 =
        .error (.malformed structureName "NAL length 2 exceeds remaining 1 bytes") := by
  have sized : IsLengthSize 2 := Or.inr (Or.inl rfl)
  constructor
  · exact ((split_outcome _ _).1 _).mpr ⟨sized, by simp [Fits], rfl⟩
  · exact ((split_outcome _ _).2.2 _).mpr ⟨_, .broken [[7]] [0, 2, 9] _ sized (by simp [Fits])
      (.body [0, 2] [9] rfl (by decide)), rfl⟩

/-- A sample is made of a byte stream whose units fit. -/
theorem ofByteStream_eq_ok_iff (stream sample : List UInt8) (lengthSize : Nat) :
    ofByteStream stream lengthSize = .ok sample ↔
      IsLengthSize lengthSize ∧ (∀ unit ∈ ByteStream.split stream, Fits lengthSize unit) ∧
        sample = records lengthSize (ByteStream.split stream) := by
  rw [ofByteStream]
  by_cases sized : IsLengthSize lengthSize
  · obtain ⟨size, rfl⟩ := sized.exists_size
    rw [LengthSize.ofNat?_bytes, and_iff_right sized]
    exact joinUnits_eq_ok_iff size (ByteStream.split stream) sample
  · rw [LengthSize.ofNat?_eq_error sized]
    exact iff_of_false (by rintro ⟨⟩) fun made => sized made.1

/-- A sample is made of a byte stream exactly if there is the length size and the length of each
unit fits it. The sample is then split into the units of the stream, and the stream that is made of
the sample has these units again. -/
theorem ofByteStream_outcome (stream : List UInt8) (lengthSize : Nat) :
    ((∃ sample, ofByteStream stream lengthSize = .ok sample) ↔
        IsLengthSize lengthSize ∧ ∀ unit ∈ ByteStream.split stream, Fits lengthSize unit) ∧
      ∀ sample, ofByteStream stream lengthSize = .ok sample →
        split sample lengthSize = .ok (ByteStream.split stream) ∧
          ∃ again, toByteStream sample lengthSize = .ok again ∧
            ByteStream.split again = ByteStream.split stream := by
  simp only [ofByteStream_eq_ok_iff]
  refine ⟨⟨?_, fun ⟨sized, fit⟩ => ⟨_, sized, fit, rfl⟩⟩, ?_⟩
  · rintro ⟨sample, sized, fit, -⟩
    exact ⟨sized, fit⟩
  · rintro sample ⟨sized, fit, rfl⟩
    have split_eq := split_records sized fit
    refine ⟨split_eq, ByteStream.join (ByteStream.split stream), ?_, ?_⟩
    · rw [toByteStream, split_eq]
      rfl
    · exact ByteStream.split_join fun unit isUnit => ByteStream.framable_of_mem_split isUnit

/-- The sample of a stream with zeros behind its first unit and an empty unit between its two. -/
theorem ofByteStream_outcome_emptyUnit :
    split [1, 7, 2, 8, 9] 1 = .ok [[7], [8, 9]] :=
  ((ofByteStream_outcome [0, 0, 1, 7, 0, 0, 0, 1, 0, 0, 1, 8, 9] 1).2 [1, 7, 2, 8, 9] rfl).1

end CodedVideo.Sample
