import CodedVideo.Avc.ScalingList
import CodedVideo.Proofs.Decoder.Accepts
import CodedVideo.Proofs.SharedCoding

/-!
# Decoding AVC scaling lists

A coded list follows its differences: each weight lies a difference above the one in front of it,
modulo 256, up to the first difference that leads to zero. From there on no difference is read, and
the last weight is repeated. Only the first difference can lead to zero otherwise: then the default
list is meant. So no weight is zero, and each list without a zero is decoded from its differences,
whatever numbers stand for them modulo 256.

Main statement: `readers_followDifferences`.
-/

namespace CodedVideo.Avc

open Decoder (Accepts)

namespace ScalingList

open ByteDifference (next)

/-! ## Lists by their differences -/

/-- The weights follow the differences up to `stop`, starting from `entry`. In front of the weight
with a given index stands the entry of `entry :: weights` with that index. The first `stop` weights
each lie a difference above the one in front; the difference behind them, if a weight is left, leads
to zero, and the weights that are left repeat the last one. -/
structure FollowsTo (stop : Nat) (entry size : Nat) (weights : List Nat)
    (differences : List Int) : Prop where
  stop_le : stop ≤ size
  weights_length : weights.length = size
  differences_length : differences.length = min (stop + 1) size
  inRange : ∀ weight ∈ weights, 1 ≤ weight ∧ weight ≤ 255
  follows : ∀ index < stop, ∃ last difference weight, (entry :: weights)[index]? = some last ∧
    differences[index]? = some difference ∧ weights[index]? = some weight ∧
      (weight : Int) = (last + difference) % 256
  stops : stop < size → ∃ last difference, (entry :: weights)[stop]? = some last ∧
    differences[stop]? = some difference ∧ ((last : Int) + difference) % 256 = 0
  repeats : ∀ index, stop ≤ index → index < size →
    weights[index]? = (entry :: weights)[stop]?

namespace FollowsTo

variable {stop entry size : Nat} {difference : Int} {weights : List Nat} {differences : List Int}

/-- Without weights there are no differences. -/
theorem nil_iff : FollowsTo stop entry 0 weights differences ↔
    stop = 0 ∧ weights = [] ∧ differences = [] := by
  constructor
  · intro follows
    exact ⟨Nat.le_zero.mp follows.stop_le, List.length_eq_zero_iff.mp follows.weights_length,
      List.length_eq_zero_iff.mp follows.differences_length⟩
  · rintro ⟨rfl, rfl, rfl⟩
    exact ⟨Nat.le_refl 0, rfl, rfl, List.forall_mem_nil _, nofun, nofun, nofun⟩

/-- Behind a difference that leads to zero a weight is repeated. -/
theorem zero_iff (inRange : 1 ≤ entry ∧ entry ≤ 255) :
    FollowsTo 0 entry (size + 1) weights differences ↔
      weights = List.replicate (size + 1) entry ∧
        ∃ difference, differences = [difference] ∧ next entry difference = 0 := by
  simp only [ByteDifference.next_eq_zero_iff]
  constructor
  · intro follows
    constructor
    · apply List.ext_getElem?
      intro index
      by_cases isInside : index < size + 1
      · rw [follows.repeats index (Nat.zero_le _) isInside, List.getElem?_replicate,
          if_pos isInside]
        rfl
      · rw [List.getElem?_eq_none (by rw [follows.weights_length]; omega),
          List.getElem?_eq_none (by rw [List.length_replicate]; omega)]
    · obtain ⟨last, difference, last_eq, difference_eq, isZero⟩ := follows.stops (Nat.succ_pos size)
      cases last_eq
      have single := follows.differences_length
      rw [Nat.add_min_add_right, Nat.zero_min] at single
      obtain ⟨first, rfl⟩ := List.length_eq_one_iff.mp single
      cases difference_eq
      exact ⟨difference, rfl, isZero⟩
  · rintro ⟨rfl, difference, rfl, isZero⟩
    refine ⟨Nat.zero_le _, List.length_replicate, ?_, ?_, nofun, ?_, ?_⟩
    · rw [List.length_singleton, Nat.add_min_add_right, Nat.zero_min]
    · intro weight isWeight
      rw [List.eq_of_mem_replicate isWeight]
      exact inRange
    · exact fun _ => ⟨entry, difference, rfl, rfl, isZero⟩
    · intro index _ isInside
      rw [List.getElem?_replicate, if_pos isInside]
      rfl

/-- In front of the stop a weight follows its difference, and the weights behind it follow theirs. -/
theorem succ_iff : FollowsTo (stop + 1) entry (size + 1) weights differences ↔
    ∃ difference others behind, weights = next entry difference :: others ∧
      differences = difference :: behind ∧ next entry difference ≠ 0 ∧
        FollowsTo stop (next entry difference) size others behind := by
  constructor
  · intro follows
    rcases follows with
      ⟨stop_le, weights_length, differences_length, inRange, follows, stops, repeats⟩
    obtain ⟨first, others, rfl⟩ := List.exists_cons_of_length_eq_add_one weights_length
    rw [Nat.add_min_add_right] at differences_length
    obtain ⟨difference, behind, rfl⟩ := List.exists_cons_of_length_eq_add_one differences_length
    obtain ⟨_, _, _, ⟨⟩, ⟨⟩, ⟨⟩, first_eq⟩ := follows 0 (Nat.succ_pos stop)
    rw [← ByteDifference.natCast_next, Int.natCast_inj] at first_eq
    subst first_eq
    rw [List.forall_mem_cons] at inRange
    refine ⟨difference, others, behind, rfl, rfl, Nat.ne_of_gt inRange.1.1, ?_⟩
    constructor
    · exact Nat.le_of_succ_le_succ stop_le
    · exact Nat.succ.inj weights_length
    · exact Nat.succ.inj differences_length
    · exact inRange.2
    · exact fun index isInside => follows (index + 1) (Nat.succ_lt_succ isInside)
    · exact fun isInside => stops (Nat.succ_lt_succ isInside)
    · exact fun index isBehind isInside =>
        repeats (index + 1) (Nat.succ_le_succ isBehind) (Nat.succ_lt_succ isInside)
  · rintro ⟨difference, others, behind, rfl, rfl, notZero,
      stop_le, weights_length, differences_length, inRange, follows, stops, repeats⟩
    have first_le := ByteDifference.next_le entry difference
    constructor
    · exact Nat.succ_le_succ stop_le
    · exact congrArg Nat.succ weights_length
    · rw [List.length_cons, differences_length, Nat.add_min_add_right]
    · exact List.forall_mem_cons.mpr ⟨⟨Nat.pos_of_ne_zero notZero, first_le⟩, inRange⟩
    · intro index isInside
      cases index with
      | zero =>
          exact ⟨entry, difference, _, rfl, rfl, rfl, ByteDifference.natCast_next entry difference⟩
      | succ index => exact follows index (Nat.lt_of_succ_lt_succ isInside)
    · exact fun isInside => stops (Nat.lt_of_succ_lt_succ isInside)
    · intro index isBehind isInside
      cases index with
      | zero => exact absurd isBehind (Nat.not_succ_le_zero stop)
      | succ index =>
          exact repeats index (Nat.le_of_succ_le_succ isBehind) (Nat.lt_of_succ_lt_succ isInside)

end FollowsTo

/-- Behind a difference that leads to zero nothing is read. -/
theorem accepts_stop {last : Nat} (inRange : 1 ≤ last ∧ last ≤ 255) {difference : Int}
    (isZero : next last difference = 0) (remaining : Nat) (others : List Nat) :
    Accepts (Decoder.done (others.reverse ++ List.replicate (remaining + 1) last))
      fun result fields => ∃ weights differences stop, result = others.reverse ++ weights ∧
        fields = differences.map .signed ∧
          FollowsTo stop last (remaining + 1) weights (difference :: differences) := by
  refine (Accepts.done _).congr fun result fields => ?_
  constructor
  · rintro ⟨rfl, rfl⟩
    exact ⟨_, [], 0, rfl, rfl, (FollowsTo.zero_iff inRange).mpr ⟨rfl, difference, rfl, isZero⟩⟩
  · rintro ⟨weights, differences, stop | stop, rfl, rfl, follows⟩
    · obtain ⟨rfl, _, ⟨⟩, _⟩ := (FollowsTo.zero_iff inRange).mp follows
      exact ⟨rfl, rfl⟩
    · obtain ⟨_, _, _, _, ⟨⟩, notZero, _⟩ := FollowsTo.succ_iff.mp follows
      exact absurd isZero notZero

/-- Behind a difference that leads to a weight stands what follows that weight. -/
theorem accepts_step {last : Nat} (inRange : 1 ≤ last ∧ last ≤ 255) {difference : Int}
    (notZero : next last difference ≠ 0) {remaining : Nat} {others : List Nat}
    {decoder : Decoder (List Nat)}
    (accepts : Accepts decoder fun result fields => ∃ weights differences stop,
      result = (next last difference :: others).reverse ++ weights ∧
        fields = differences.map .signed ∧
          FollowsTo stop (next last difference) remaining weights differences) :
    Accepts decoder fun result fields => ∃ weights differences stop,
      result = others.reverse ++ weights ∧ fields = differences.map .signed ∧
        FollowsTo stop last (remaining + 1) weights (difference :: differences) := by
  refine accepts.congr fun result fields => ?_
  constructor
  · rintro ⟨weights, differences, stop, rfl, rfl, follows⟩
    refine ⟨_, differences, stop + 1, ?_, rfl,
      FollowsTo.succ_iff.mpr ⟨difference, weights, differences, rfl, rfl, notZero, follows⟩⟩
    rw [List.reverse_cons, List.append_assoc, List.singleton_append]
  · rintro ⟨weights, differences, stop | stop, rfl, rfl, follows⟩
    · obtain ⟨rfl, _, ⟨⟩, isZero⟩ := (FollowsTo.zero_iff inRange).mp follows
      exact absurd isZero notZero
    · obtain ⟨_, weights, differences, rfl, ⟨⟩, _, follows⟩ := FollowsTo.succ_iff.mp follows
      refine ⟨weights, differences, stop, ?_, rfl, follows⟩
      rw [List.reverse_cons, List.append_assoc, List.singleton_append]

/-- Decoding goes on behind a weight as far as the weights follow their differences. -/
theorem accepts_weightsAfter (remaining : Nat) {last : Nat} (inRange : 1 ≤ last ∧ last ≤ 255)
    (others : List Nat) :
    Accepts (weightsAfter remaining last others) fun result fields =>
      ∃ weights differences stop, result = others.reverse ++ weights ∧
        fields = differences.map .signed ∧
          FollowsTo stop last remaining weights differences := by
  induction remaining generalizing last others with
  | zero =>
      refine (Accepts.done others.reverse).congr fun result fields => ?_
      constructor
      · rintro ⟨rfl, rfl⟩
        exact ⟨[], [], 0, (List.append_nil _).symm, rfl, FollowsTo.nil_iff.mpr ⟨rfl, rfl, rfl⟩⟩
      · rintro ⟨weights, differences, stop, rfl, rfl, follows⟩
        obtain ⟨rfl, rfl, rfl⟩ := FollowsTo.nil_iff.mp follows
        exact ⟨List.append_nil _, rfl⟩
  | succ remaining inductionHypothesis =>
      have behindRead (difference : Int) :
          Accepts (if next last difference = 0 then
              Decoder.done (others.reverse ++ List.replicate (remaining + 1) last)
            else weightsAfter remaining (next last difference) (next last difference :: others))
            fun result fields => ∃ weights differences stop, result = others.reverse ++ weights ∧
              fields = differences.map .signed ∧
                FollowsTo stop last (remaining + 1) weights (difference :: differences) := by
        split
        · next isZero => exact accepts_stop inRange isZero remaining others
        · next notZero =>
            have nextInRange : 1 ≤ next last difference ∧ next last difference ≤ 255 :=
              ⟨Nat.pos_of_ne_zero notZero, ByteDifference.next_le last difference⟩
            exact accepts_step inRange notZero (inductionHypothesis nextInRange _)
      refine (Accepts.bind .signed behindRead).congr fun result fields => ?_
      constructor
      · rintro ⟨difference, _, _, rfl, ⟨weights, differences, stop, rfl, rfl, follows⟩, rfl⟩
        exact ⟨weights, difference :: differences, stop, rfl, rfl, follows⟩
      · rintro ⟨weights, differences, stop, rfl, rfl, follows⟩
        have count_eq := follows.differences_length
        rw [Nat.add_min_add_right] at count_eq
        obtain ⟨difference, differences, rfl⟩ := List.exists_cons_of_length_eq_add_one count_eq
        exact ⟨difference, _, _, rfl, ⟨weights, differences, stop, rfl, rfl, follows⟩, rfl⟩

/-! ## Slots -/

/-- How a slot of a given size is coded: a flag, and behind it the differences of the list. -/
inductive CodedIn (size : Nat) : ScalingList → List CodedField → Prop where
  /-- Nothing is coded. -/
  | notPresent : CodedIn size notPresent [.flag false]
  /-- The first difference leads to zero. -/
  | useDefault {difference : Int} (isZero : (8 + difference) % 256 = 0) :
      CodedIn size useDefault [.flag true, .signed difference]
  /-- At least the first weight follows its difference. -/
  | explicit {stop : Nat} {weights : List Nat} {differences : List Int} (positive : 1 ≤ stop)
      (follows : FollowsTo stop 8 size weights differences) :
      CodedIn size (explicit weights) (.flag true :: differences.map .signed)

/-- Behind a set flag stands the one difference of the default list, or those of an explicit one. -/
theorem codedIn_flag_iff {size : Nat} {list : ScalingList} {fields : List CodedField} :
    CodedIn size list (.flag true :: fields) ↔
      (list = useDefault ∧ ∃ difference, next 8 difference = 0 ∧ fields = [.signed difference]) ∨
        ∃ weights differences stop, list = explicit weights ∧ fields = differences.map .signed ∧
          1 ≤ stop ∧ FollowsTo stop 8 size weights differences := by
  constructor
  · intro isCoded
    cases isCoded with
    | useDefault isZero =>
        exact Or.inl ⟨rfl, _, ByteDifference.next_eq_zero_iff.mpr isZero, rfl⟩
    | explicit positive follows => exact Or.inr ⟨_, _, _, rfl, rfl, positive, follows⟩
  · rintro (⟨rfl, difference, isZero, rfl⟩ | ⟨_, _, _, rfl, rfl, positive, follows⟩)
    · exact .useDefault (ByteDifference.next_eq_zero_iff.mp isZero)
    · exact .explicit positive follows

/-- Behind the first difference the default list is meant, or the weights follow. -/
theorem accepts_behindFirst (size : Nat) (difference : Int) :
    Accepts
      (if next 8 difference = 0 then Decoder.done useDefault
        else (weightsAfter size (next 8 difference) [next 8 difference]).bind
          fun weights => Decoder.done (explicit weights))
      fun list fields => CodedIn (size + 1) list (.flag true :: .signed difference :: fields) := by
  have inRange : 1 ≤ 8 ∧ 8 ≤ 255 := by decide
  split
  · next isZero =>
      refine (Accepts.done useDefault).congr fun list fields => ?_
      rw [codedIn_flag_iff]
      constructor
      · rintro ⟨rfl, rfl⟩
        exact Or.inl ⟨rfl, difference, isZero, rfl⟩
      · rintro (⟨rfl, _, _, ⟨⟩⟩ | ⟨_, differences, stop, _, fields_eq, positive, follows⟩)
        · exact ⟨rfl, rfl⟩
        · obtain ⟨stop, rfl⟩ := Nat.exists_eq_add_one_of_ne_zero (Nat.ne_of_gt positive)
          obtain ⟨_, _, _, rfl, rfl, notZero, _⟩ := FollowsTo.succ_iff.mp follows
          cases fields_eq
          exact absurd isZero notZero
  · next notZero =>
      have nextInRange : 1 ≤ next 8 difference ∧ next 8 difference ≤ 255 :=
        ⟨Nat.pos_of_ne_zero notZero, ByteDifference.next_le 8 difference⟩
      have stepped := accepts_step inRange notZero
        (accepts_weightsAfter size nextInRange [next 8 difference])
      refine (stepped.bind fun weights => .done (explicit weights)).congr fun list fields => ?_
      rw [codedIn_flag_iff]
      constructor
      · rintro ⟨_, _, _, ⟨weights, differences, stop, rfl, rfl, follows⟩, ⟨rfl, rfl⟩, rfl⟩
        refine Or.inr ⟨_, difference :: differences, stop, rfl, ?_, ?_, follows⟩
        · rw [List.append_nil, List.map_cons]
        · apply Nat.pos_of_ne_zero
          rintro rfl
          obtain ⟨_, _, ⟨⟩, isZero⟩ := (FollowsTo.zero_iff inRange).mp follows
          exact notZero isZero
      · rintro (⟨_, _, isZero, ⟨⟩⟩ | ⟨weights, differences, stop, rfl, fields_eq, _, follows⟩)
        · exact absurd isZero notZero
        · rcases differences with _ | ⟨_, differences⟩
          · cases fields_eq
          · cases fields_eq
            exact ⟨_, _, [], ⟨_, _, stop, rfl, rfl, follows⟩, ⟨rfl, rfl⟩, (List.append_nil _).symm⟩

theorem accepts_coded {size : Nat} (notEmpty : 0 < size) :
    Accepts (coded size) fun list fields => CodedIn size list (.flag true :: fields) := by
  obtain ⟨size, rfl⟩ := Nat.exists_eq_add_one_of_ne_zero (Nat.ne_of_gt notEmpty)
  refine (Accepts.bind .signed (accepts_behindFirst size)).congr fun list fields => ?_
  constructor
  · rintro ⟨difference, _, behind, rfl, isCoded, rfl⟩
    exact isCoded
  · intro isCoded
    rcases codedIn_flag_iff.mp isCoded with ⟨_, difference, _, rfl⟩ |
      ⟨_, differences, stop, _, rfl, positive, follows⟩
    · exact ⟨difference, _, [], rfl, isCoded, rfl⟩
    · obtain ⟨stop, rfl⟩ := Nat.exists_eq_add_one_of_ne_zero (Nat.ne_of_gt positive)
      obtain ⟨difference, _, behind, _, rfl, _⟩ := FollowsTo.succ_iff.mp follows
      exact ⟨difference, _, behind.map .signed, rfl, isCoded, rfl⟩

/-- A slot is coded by its flag and the list behind it. -/
theorem accepts_decoder (slot : Nat) :
    Accepts (decoder slot) (CodedIn (if slot < 6 then 16 else 64)) := by
  have positive : 0 < sizeOfSlot slot := by
    rw [sizeOfSlot]
    split <;> decide
  have behindFlag (present : Bool) :
      Accepts (if present then coded (sizeOfSlot slot) else Decoder.done notPresent)
        fun list fields => CodedIn (sizeOfSlot slot) list (.flag present :: fields) := by
    cases present with
    | true => exact accepts_coded positive
    | false =>
        refine (Accepts.done notPresent).congr fun list fields => ?_
        constructor
        · rintro ⟨rfl, rfl⟩
          exact .notPresent
        · intro isCoded
          cases isCoded
          exact ⟨rfl, rfl⟩
  refine (Accepts.bind .flag behindFlag).congr fun list fields => ?_
  constructor
  · rintro ⟨present, _, behind, rfl, isCoded, rfl⟩
    exact isCoded
  · intro isCoded
    cases isCoded with
    | notPresent => exact ⟨false, _, [], rfl, .notPresent, rfl⟩
    | useDefault isZero => exact ⟨true, _, _, rfl, .useDefault isZero, rfl⟩
    | explicit positive follows => exact ⟨true, _, _, rfl, .explicit positive follows, rfl⟩

/-! ## Representatives of differences -/

/-- Numbers of 32 bits that stand, modulo 256, for the differences that lead from weight to weight,
starting from 8. -/
structure Represent (weights : List Nat) (differences : List Int) : Prop where
  length_eq : differences.length = weights.length
  fit : ∀ difference ∈ differences, -2147483648 ≤ difference ∧ difference ≤ 2147483647
  congruent : ∀ (index : Nat) (last weight : Nat) (difference : Int),
    (8 :: weights)[index]? = some last → weights[index]? = some weight →
      differences[index]? = some difference → (256 : Int) ∣ difference - (weight - last)

theorem Represent.followsTo {weights : List Nat} {differences : List Int}
    (represent : Represent weights differences)
    (areWeights : ∀ weight ∈ weights, 1 ≤ weight ∧ weight ≤ 255) :
    FollowsTo weights.length 8 weights.length weights differences := by
  rcases represent with ⟨length_eq, fit, congruent⟩
  constructor
  · exact Nat.le_refl _
  · rfl
  · rw [length_eq, Nat.min_eq_right (Nat.le_succ _)]
  · exact areWeights
  · intro index isInside
    have last_eq := List.getElem?_eq_getElem (l := 8 :: weights) (Nat.lt_succ_of_lt isInside)
    have weight_eq := List.getElem?_eq_getElem isInside
    have difference_eq := List.getElem?_eq_getElem (length_eq.symm ▸ isInside)
    have inRange := areWeights _ (List.mem_of_getElem? weight_eq)
    have divides := congruent index _ _ _ last_eq weight_eq difference_eq
    refine ⟨_, _, _, last_eq, difference_eq, weight_eq, ?_⟩
    omega
  · exact fun isInside => absurd isInside (Nat.lt_irrefl _)
  · exact fun index isBehind isInside => absurd isInside (Nat.not_lt.mpr isBehind)

/-- The signed codes of differences, one behind the other. -/
def differenceCodes (differences : List Int) : List Bool :=
  differences.flatMap fun difference => ExpGolomb.code (ExpGolomb.ofSigned difference)

/-- In front of codes that represent the differences of weights other than zero, a list of sixteen
or sixty-four is decoded to these weights and stops behind the codes. -/
def DecodesRepresentatives {σ : Type} [BitSource σ] (decoded : List Bool) (reader : Reader σ) :
    Prop :=
  ∀ (weights : List Nat) (differences : List Int) (rest : List Bool),
    weights.length = 16 ∨ weights.length = 64 → (∀ weight ∈ weights, 1 ≤ weight ∧ weight ≤ 255) →
      Represent weights differences →
        decoded.drop reader.position = differenceCodes differences ++ rest →
          reader.Gives (coded weights.length) (.ok (explicit weights))
            (differenceCodes differences).length

theorem codeAll_map_signed (differences : List Int) (position : Nat) :
    CodedField.codeAll (differences.map .signed) position = differenceCodes differences := by
  induction differences generalizing position with
  | nil => rfl
  | cons difference differences inductionHypothesis =>
      exact congrArg (_ ++ ·) (inductionHypothesis _)

theorem decodesRepresentatives_of_standsIn {σ : Type} [BitSource σ] [FiniteSource σ]
    {decoded : List Bool} {reader : Reader σ} (stands : reader.StandsIn decoded)
    (noFault : reader.fault = none) : DecodesRepresentatives decoded reader := by
  intro weights differences rest size areWeights represent decoded_eq
  have positive : 1 ≤ weights.length := by omega
  have isCoded : CodedIn weights.length (explicit weights) (.flag true :: differences.map .signed) :=
    .explicit positive (represent.followsTo areWeights)
  have exact : ∀ field ∈ differences.map CodedField.signed, field.Exact := by
    rw [List.forall_mem_map]
    exact fun difference isDifference =>
      ⟨Reader.fitsSigned_iff.mpr (represent.fit difference isDifference), rfl⟩
  have free : ∀ field ∈ differences.map CodedField.signed, ¬ field.IsAligning := by
    rw [List.forall_mem_map]
    exact fun _ _ => id
  rw [← codeAll_map_signed differences 0] at decoded_eq ⊢
  exact (accepts_coded positive).gives isCoded exact free stands noFault decoded_eq

end ScalingList

open ScalingList (CodedIn DecodesRepresentatives FollowsTo Represent)

/-- From every source of bits, slots are decoded exactly if a reader passes the fields of each: a
flag, and for a list that is coded differences. The weights of an explicit list follow them up to the
first one that leads to zero, which is the last one to be read; a first difference that leads to zero
stands for the default list. In front of a reader of either kind, codes of whatever numbers that
represent the differences between weights other than zero are decoded to those weights. -/
theorem readers_followDifferences :
    (∀ {σ : Type} [BitSource σ] (count : Nat) (reader last : Reader σ) (lists : List ScalingList),
        (ScalingList.slots count).run reader = (.ok lists, last) ↔
          ∃ codings, lists.length = count ∧
            List.Forall₂ (fun slot coding => CodedIn (if slot.2 < 6 then 16 else 64) slot.1 coding)
              lists.zipIdx codings ∧
            reader.Passes codings.flatten last) ∧
      (∀ bytes reader, PlainReader.ReachedFrom bytes reader → reader.fault = none →
        DecodesRepresentatives (Bits.ofBytes bytes) reader) ∧
      ∀ unit actions, (ReaderHistory.run unit actions).reader.fault = none →
        DecodesRepresentatives (Bits.ofBytes (Emulation.remove unit))
          (ReaderHistory.run unit actions).reader := by
  refine ⟨fun count reader last lists => ?_, fun bytes reader reached => ?_, fun unit actions => ?_⟩
  · rw [ScalingList.slots, (Accepts.times ScalingList.accepts_decoder count).run_iff]
    constructor
    · rintro ⟨_, ⟨codings, length_eq, areCoded, rfl⟩, passed⟩
      exact ⟨codings, length_eq, areCoded, passed⟩
    · rintro ⟨codings, length_eq, areCoded, passed⟩
      exact ⟨_, ⟨codings, length_eq, areCoded, rfl⟩, passed⟩
  · exact ScalingList.decodesRepresentatives_of_standsIn reached.standsIn
  · exact ScalingList.decodesRepresentatives_of_standsIn (EscapedReader.standsIn_run unit actions)

/-- Sixteen weights of 8 are decoded although the least number of 32 bits stands for the first
difference, from plain bytes and from a unit with two inserted bytes. Behind the default list and a
slot without a list, a second difference that leads to zero ends a list. -/
theorem readers_followDifferences_samples :
    let plain := PlainReader.ofBytes [0x00, 0x00, 0x00, 0x00, 0x80, 0x00, 0x00, 0x00, 0xff, 0xff]
    let reader := (ReaderHistory.run
      [0x00, 0x00, 0x03, 0x00, 0x00, 0x80, 0x00, 0x00, 0x03, 0x00, 0xff, 0xff] []).reader
    let weights := List.replicate 16 8
    let differences := -2147483648 :: List.replicate 15 0
    (plain.fault = none ∧ reader.fault = none ∧
        PlainReader.ReachedFrom [0x00, 0x00, 0x00, 0x00, 0x80, 0x00, 0x00, 0x00, 0xff, 0xff] plain ∧
        Represent weights differences) ∧
      plain.Gives (ScalingList.coded 16) (.ok (.explicit weights)) 80 ∧
      reader.Gives (ScalingList.coded 16) (.ok (.explicit weights)) 80 ∧
      (ScalingList.slots 3).run (PlainReader.ofBytes [0x84, 0x50, 0x80, 0x21, 0x80]) =
        (.ok [.useDefault, .notPresent, .explicit (List.replicate 16 16)],
          PlainReader.before 32 [true, false, false, false, false, false, false, false]) := by
  intro plain reader weights differences
  have areWeights : ∀ weight ∈ weights, 1 ≤ weight ∧ weight ≤ 255 := by decide
  have divides : ∀ difference ∈ differences, (256 : Int) ∣ difference := by decide
  have represent : Represent weights differences := by
    refine ⟨rfl, by decide, fun index last weight difference last_eq weight_eq difference_eq => ?_⟩
    rw [List.eq_of_mem_replicate (n := 17) (List.mem_of_getElem? last_eq),
      List.eq_of_mem_replicate (List.mem_of_getElem? weight_eq), Int.sub_self, Int.sub_zero]
    exact divides _ (List.mem_of_getElem? difference_eq)
  refine ⟨⟨rfl, rfl, .start, represent⟩, ?_, ?_, ?_⟩
  · exact readers_followDifferences.2.1 _ plain .start rfl weights differences [] (Or.inl rfl)
      areWeights represent rfl
  · exact readers_followDifferences.2.2 _ [] rfl weights differences [] (Or.inl rfl) areWeights
      represent rfl
  · have follows : FollowsTo 1 8 16 (List.replicate 16 16) [8, -16] :=
      FollowsTo.succ_iff.mpr ⟨8, List.replicate 15 16, [-16], rfl, rfl, by decide,
        (FollowsTo.zero_iff (by decide)).mpr ⟨rfl, -16, rfl, by decide⟩⟩
    have fit : ∀ field ∈ [CodedField.flag true, .signed (-8), .flag false, .flag true, .signed 8,
        .signed (-16)], field.Fits := by
      decide
    refine (readers_followDifferences.1 3 _ _ _).mpr
      ⟨[[.flag true, .signed (-8)], [.flag false], [.flag true, .signed 8, .signed (-16)]], rfl,
        ?_, CodedField.readAll_before fit (by decide) 0 _⟩
    exact .cons (.useDefault rfl) (.cons .notPresent
      (.cons (.explicit (Nat.le_refl 1) follows) .nil))

end CodedVideo.Avc
