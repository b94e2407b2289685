import CodedVideo.Proofs.Decoder.Accepts
import CodedVideo.Proofs.Hevc.SetPartsReadBack
import Mathlib.Algebra.Ring.Int.Defs
import Mathlib.Data.List.Nodup

/-!
# Decoding HEVC scaling lists

Each list is explicit, a default list, or the copy of a list in front of it. The coefficients of an
explicit list are sums of its differences, modulo 256. A copy has the size of its source, and every
place of that size in front of its own has a list already; so a distance is refused only where it
leads below the first kind of block.

Main statement: `ScalingLists.decoder_resolves`.
-/

namespace CodedVideo.Hevc

open Decoder (Accepts)

namespace ScalingList

/-! ## Explicit lists -/

/-- As many coefficients as differences; each is the sum, modulo 256, of `start` and the differences
up to its own. -/
structure SumsUp (start size : Nat) (coefficients : List Nat) (differences : List Int) : Prop where
  coefficients_length : coefficients.length = size
  differences_length : differences.length = size
  inRange : ∀ difference ∈ differences, -128 ≤ difference ∧ difference ≤ 127
  sums : ∀ (index : Nat) (coefficient : Nat), coefficients[index]? = some coefficient →
    (coefficient : Int) = (start + (differences.take (index + 1)).sum) % 256

namespace SumsUp

variable {start size : Nat} {coefficients : List Nat} {differences : List Int}

theorem zero_iff :
    SumsUp start 0 coefficients differences ↔ coefficients = [] ∧ differences = [] := by
  constructor
  · intro sumsUp
    exact ⟨List.length_eq_zero_iff.mp sumsUp.coefficients_length,
      List.length_eq_zero_iff.mp sumsUp.differences_length⟩
  · rintro ⟨rfl, rfl⟩
    exact ⟨rfl, rfl, List.forall_mem_nil _, nofun⟩

/-- Behind the first coefficient the sums go on from it. -/
theorem succ_iff : SumsUp start (size + 1) coefficients differences ↔
    ∃ difference others behind, coefficients = ByteDifference.next start difference :: others ∧
      differences = difference :: behind ∧ (-128 ≤ difference ∧ difference ≤ 127) ∧
        SumsUp (ByteDifference.next start difference) size others behind := by
  have shift (difference : Int) (behind : List Int) (index : Nat) :
      (ByteDifference.next start difference + (behind.take (index + 1)).sum) % 256 =
        (start + ((difference :: behind).take (index + 2)).sum) % 256 := by
    rw [ByteDifference.natCast_next, List.take_succ_cons, List.sum_cons, Int.emod_add_emod,
      Int.add_assoc]
  constructor
  · rintro ⟨coefficients_length, differences_length, inRange, sums⟩
    obtain ⟨first, others, rfl⟩ := List.exists_cons_of_length_eq_add_one coefficients_length
    obtain ⟨difference, behind, rfl⟩ := List.exists_cons_of_length_eq_add_one differences_length
    rw [List.forall_mem_cons] at inRange
    have first_eq := sums 0 first rfl
    rw [List.take_succ_cons, List.take_zero, List.sum_singleton, ← ByteDifference.natCast_next,
      Int.natCast_inj] at first_eq
    subst first_eq
    refine ⟨difference, others, behind, rfl, rfl, inRange.1, Nat.succ.inj coefficients_length,
      Nat.succ.inj differences_length, inRange.2, fun index coefficient coefficient_eq => ?_⟩
    rw [shift]
    exact sums (index + 1) coefficient coefficient_eq
  · rintro ⟨difference, others, behind, rfl, rfl, firstInRange, coefficients_length,
      differences_length, inRange, sums⟩
    refine ⟨congrArg Nat.succ coefficients_length, congrArg Nat.succ differences_length,
      List.forall_mem_cons.mpr ⟨firstInRange, inRange⟩, ?_⟩
    intro index coefficient coefficient_eq
    cases index with
    | zero =>
        cases coefficient_eq
        rw [List.take_succ_cons, List.take_zero, List.sum_singleton, ByteDifference.natCast_next]
    | succ index =>
        rw [← shift]
        exact sums index coefficient coefficient_eq

end SumsUp

theorem accepts_differenceDecoder :
    Accepts differenceDecoder fun difference fields =>
      (-128 ≤ difference ∧ difference ≤ 127) ∧ fields = [.signed difference] := by
  refine (Accepts.bind .signed fun difference =>
    Accepts.bind .require fun _ => .done difference).congr fun value fields => ?_
  simp only [Bool.and_eq_true, decide_eq_true_iff]
  constructor
  · rintro ⟨difference, _, _, rfl, ⟨_, _, _, ⟨inRange, rfl⟩, ⟨rfl, rfl⟩, rfl⟩, rfl⟩
    exact ⟨inRange, rfl⟩
  · rintro ⟨inRange, rfl⟩
    exact ⟨value, _, [], rfl, ⟨(), [], [], ⟨inRange, rfl⟩, ⟨rfl, rfl⟩, rfl⟩, rfl⟩

/-- A coefficient of the constant part is coded, for a size that has one, as what it exceeds 8 by. -/
theorem accepts_constant (isThere : Bool) :
    Accepts (Decoder.optional isThere constantDecoder) fun constant fields =>
      constant.isSome = isThere ∧ (∀ coefficient ∈ constant, 1 ≤ coefficient ∧ coefficient ≤ 255) ∧
        fields = constant.toList.map fun coefficient => .signed ((coefficient : Int) - 8) := by
  cases isThere with
  | false =>
      refine (Accepts.done none).congr fun constant fields => ?_
      constructor
      · rintro ⟨rfl, rfl⟩
        exact ⟨rfl, fun _ isSome => absurd isSome (Option.not_mem_none _), rfl⟩
      · rintro ⟨isNone, _, rfl⟩
        rw [Option.isSome_eq_false_iff, Option.isNone_iff_eq_none] at isNone
        subst isNone
        exact ⟨rfl, rfl⟩
  | true =>
      have accepts : Accepts constantDecoder fun coefficient fields =>
          (1 ≤ coefficient ∧ coefficient ≤ 255) ∧ fields = [.signed ((coefficient : Int) - 8)] := by
        refine (Accepts.bind .signed fun minus8 =>
          Accepts.bind .require fun _ => .done (minus8 + 8).toNat).congr fun coefficient fields => ?_
        simp only [Bool.and_eq_true, decide_eq_true_iff]
        constructor
        · rintro ⟨minus8, _, _, rfl, ⟨_, _, _, ⟨inRange, rfl⟩, ⟨rfl, rfl⟩, rfl⟩, rfl⟩
          have back_eq : ((minus8 + 8).toNat : Int) - 8 = minus8 := by omega
          exact ⟨by omega, by rw [back_eq]; rfl⟩
        · rintro ⟨inRange, rfl⟩
          exact ⟨_, _, [], rfl, ⟨(), [], [], ⟨by omega, rfl⟩, ⟨by omega, rfl⟩, rfl⟩, rfl⟩
      refine (accepts.bind fun coefficient => .done (some coefficient)).congr
        fun constant fields => ?_
      constructor
      · rintro ⟨coefficient, _, _, ⟨inRange, rfl⟩, ⟨rfl, rfl⟩, rfl⟩
        exact ⟨rfl, fun _ isSome => Option.some.inj isSome ▸ inRange, rfl⟩
      · rintro ⟨isSome, inRange, rfl⟩
        obtain ⟨coefficient, rfl⟩ := Option.isSome_iff_exists.mp isSome
        exact ⟨coefficient, _, [], ⟨inRange coefficient rfl, rfl⟩, ⟨rfl, rfl⟩, rfl⟩

theorem accepts_coefficientsAfter (remaining last : Nat) (others : List Nat) :
    Accepts (coefficientsAfter remaining last others) fun result fields =>
      ∃ coefficients differences, result = others.reverse ++ coefficients ∧
        fields = differences.map .signed ∧ SumsUp last remaining coefficients differences := by
  induction remaining generalizing last others with
  | zero =>
      refine (Accepts.done others.reverse).congr fun result fields => ?_
      simp only [SumsUp.zero_iff]
      constructor
      · rintro ⟨rfl, rfl⟩
        exact ⟨[], [], (List.append_nil _).symm, rfl, rfl, rfl⟩
      · rintro ⟨_, _, rfl, rfl, rfl, rfl⟩
        exact ⟨List.append_nil _, rfl⟩
  | succ remaining inductionHypothesis =>
      refine (accepts_differenceDecoder.bind fun difference =>
        inductionHypothesis _ _).congr fun result fields => ?_
      simp only [SumsUp.succ_iff]
      constructor
      · rintro ⟨difference, _, _, ⟨inRange, rfl⟩, ⟨coefficients, differences, rfl, rfl, sumsUp⟩, rfl⟩
        refine ⟨_, _, ?_, ?_, difference, coefficients, differences, rfl, rfl, inRange, sumsUp⟩
        · rw [List.reverse_cons, List.append_assoc, List.singleton_append]
        · rfl
      · rintro ⟨_, _, rfl, rfl, difference, coefficients, differences, rfl, rfl, inRange, sumsUp⟩
        refine ⟨difference, _, _, ⟨inRange, rfl⟩, ⟨coefficients, differences, ?_, rfl, sumsUp⟩, rfl⟩
        rw [List.reverse_cons, List.append_assoc, List.singleton_append]

/-! ## Places -/

/-- The lists stand at the places that are coded first, and `behind` are the next ones. -/
def InOrder (front : List ScalingList) (behind : List (Nat × Nat)) : Prop :=
  front.map place ++ behind <+: places

/-- Each kind of block that has a list of the size of a place, in front of it, has its list there. -/
theorem mem_front_of_places_eq {front behind : List (Nat × Nat)} {sizeId matrixId source : Nat}
    {distance : Nat} (places_eq : places = front ++ (sizeId, matrixId) :: behind)
    (notZero : distance ≠ 0) (atDistance : source + distance * matrixStep sizeId = matrixId) :
    (sizeId, source) ∈ front := by
  -- There are twenty places, each with at most five in front of it that a distance leads to.
  have allInFront : ∀ entry ∈ places.zipIdx, ∀ source < entry.1.2,
      matrixStep entry.1.1 ∣ entry.1.2 - source →
        (entry.1.1, source) ∈ places.take entry.2 := by
    decide
  have place_eq : places[front.length]? = some (sizeId, matrixId) := by
    rw [places_eq, List.getElem?_append_right (Nat.le_refl _), Nat.sub_self]
    rfl
  have positive : 0 < distance * matrixStep sizeId := by
    refine Nat.mul_pos (Nat.pos_of_ne_zero notZero) ?_
    rw [matrixStep]
    split <;> decide
  have divides : matrixStep sizeId ∣ matrixId - source :=
    ⟨distance, by rw [Nat.mul_comm, ← atDistance, Nat.add_sub_cancel_left]⟩
  have taken := allInFront ((sizeId, matrixId), front.length)
    (List.mem_zipIdx_iff_getElem?.mpr place_eq) source (by simp only; omega) divides
  rwa [places_eq, List.take_left' rfl] at taken

namespace InOrder

variable {front : List ScalingList} {behind : List (Nat × Nat)} {list source : ScalingList}
  {sizeId matrixId distance : Nat}

theorem nodup (inOrder : InOrder front behind) : (front.map place).Nodup := by
  have distinct : places.Nodup := by decide
  exact distinct.sublist ((List.sublist_append_left _ _).trans inOrder.sublist)

theorem step (inOrder : InOrder front (list.place :: behind)) :
    InOrder (front ++ [list]) behind := by
  rwa [InOrder, List.map_append, List.append_assoc]

/-- Each list is found at its place. -/
theorem find?_eq (inOrder : InOrder front behind) (isInFront : source ∈ front) :
    find? front source.sizeId source.matrixId = some source := by
  rcases found_eq : find? front source.sizeId source.matrixId with _ | found
  · have isNowhere := List.find?_eq_none.mp found_eq source isInFront
    rw [beq_self_eq_true, beq_self_eq_true] at isNowhere
    exact absurd rfl isNowhere
  · have samePlace := List.find?_some found_eq
    rw [Bool.and_eq_true, beq_iff_eq, beq_iff_eq] at samePlace
    have isFound := List.mem_of_find?_eq_some found_eq
    rw [List.inj_on_of_nodup_map inOrder.nodup isFound isInFront
      (Prod.ext samePlace.1 samePlace.2)]

/-- A distance that leads to a kind of block leads to a list. -/
theorem exists_source (inOrder : InOrder front ((sizeId, matrixId) :: behind))
    (notZero : distance ≠ 0) (reaches : distance * matrixStep sizeId ≤ matrixId) :
    ∃ source ∈ front, source.sizeId = sizeId ∧
      source.matrixId + distance * matrixStep sizeId = matrixId := by
  obtain ⟨others, places_eq⟩ := inOrder
  have back_eq := Nat.sub_add_cancel reaches
  rw [List.append_assoc] at places_eq
  obtain ⟨source, isInFront, place_eq⟩ := List.mem_map.mp
    (mem_front_of_places_eq places_eq.symm notZero back_eq)
  obtain ⟨rfl, matrix_eq⟩ := Prod.ext_iff.mp place_eq
  exact ⟨source, isInFront, rfl, by rw [← back_eq]; exact congrArg (· + _) matrix_eq⟩

/-- A distance that leads to a list makes a copy of it. -/
theorem copied_eq (inOrder : InOrder front behind) (notZero : distance ≠ 0)
    (isInFront : source ∈ front)
    (atDistance : source.matrixId + distance * matrixStep source.sizeId = matrixId) :
    copied front source.sizeId matrixId distance =
      .ok { source with matrixId, isExplicit := false } := by
  have reaches : distance * matrixStep source.sizeId ≤ matrixId := by omega
  have source_eq : matrixId - distance * matrixStep source.sizeId = source.matrixId := by omega
  simp only [copied, if_neg notZero, copiedMatrix?, if_pos reaches, source_eq,
    inOrder.find?_eq isInFront]

end InOrder

/-- A distance that leads below the first kind of block is refused. -/
theorem copied_below {front : List ScalingList} {sizeId matrixId distance : Nat}
    (below : matrixId < distance * matrixStep sizeId) :
    copied front sizeId matrixId distance = .error (.malformed structureName
      s!"scaling_list_pred_matrix_id_delta {distance} out of range") := by
  have notZero : distance ≠ 0 := by
    rintro rfl
    omega
  simp only [copied, if_neg notZero, copiedMatrix?, if_neg (Nat.not_le.mpr below)]

/-! ## Lists behind others -/

/-- The default list at a place. -/
def defaultList (place : Nat × Nat) : ScalingList where
  sizeId := place.1
  matrixId := place.2
  isExplicit := false
  coefficients := defaultCoefficients place.1 place.2
  constantCoefficient := defaultConstant place.1

theorem length_defaultCoefficients (sizeId matrixId : Nat) :
    (defaultCoefficients sizeId matrixId).length = if sizeId = 0 then 16 else 64 := by
  rw [defaultCoefficients]
  by_cases isLeast : sizeId = 0
  · rw [if_pos isLeast, if_pos isLeast]
    rfl
  · rw [if_neg isLeast, if_neg isLeast]
    split <;> rfl

theorem isSome_defaultConstant (sizeId : Nat) :
    (defaultConstant sizeId).isSome = decide (1 < sizeId) := by
  rw [defaultConstant]
  split
  · next isGreat => exact (decide_eq_true isGreat).symm
  · next notGreat => exact (decide_eq_false notGreat).symm

/-- How the list at a place is coded behind those in front of it. -/
inductive CodedBehind (front : List ScalingList) (place : Nat × Nat) :
    ScalingList → List CodedField → Prop where
  /-- Distance zero stands for the default list. -/
  | byDefault : CodedBehind front place (defaultList place) [.flag false, .unsigned 0]
  /-- Another distance leads to a list in front, of the same size. -/
  | copy {distance : Nat} {source : ScalingList} (notZero : distance ≠ 0)
      (isInFront : source ∈ front) (sameSize : source.sizeId = place.1)
      (atDistance : source.matrixId + distance * matrixStep place.1 = place.2) :
      CodedBehind front place { source with matrixId := place.2, isExplicit := false }
        [.flag false, .unsigned distance]
  /-- The two greatest sizes have a coefficient of the constant part, where the sums start. -/
  | explicit {constant : Option Nat} {coefficients : List Nat} {differences : List Int}
      (isSome_eq : constant.isSome = decide (1 < place.1))
      (inRange : ∀ coefficient ∈ constant, 1 ≤ coefficient ∧ coefficient ≤ 255)
      (sumsUp : SumsUp (constant.getD 8) (if place.1 = 0 then 16 else 64) coefficients differences) :
      CodedBehind front place
        { sizeId := place.1, matrixId := place.2, isExplicit := true, coefficients
          constantCoefficient := constant }
        (.flag true :: (constant.toList.map fun coefficient => .signed ((coefficient : Int) - 8)) ++
          differences.map .signed)

theorem CodedBehind.place_eq {front : List ScalingList} {place : Nat × Nat} {list : ScalingList}
    {fields : List CodedField} (isCoded : CodedBehind front place list fields) :
    list.place = place := by
  cases isCoded with
  | byDefault => rfl
  | copy _ _ sameSize => exact Prod.ext sameSize rfl
  | explicit => rfl

/-- What stands for the list at a place that is not explicit. -/
theorem InOrder.copied_eq_ok_iff {front : List ScalingList} {behind : List (Nat × Nat)}
    {place : Nat × Nat} (inOrder : InOrder front (place :: behind)) {distance : Nat}
    {list : ScalingList} :
    copied front place.1 place.2 distance = .ok list ↔
      CodedBehind front place list [.flag false, .unsigned distance] := by
  constructor
  · intro copied_eq
    by_cases isZero : distance = 0
    · subst isZero
      cases copied_eq
      exact .byDefault
    · by_cases reaches : distance * matrixStep place.1 ≤ place.2
      · obtain ⟨source, isInFront, sameSize, atDistance⟩ := inOrder.exists_source isZero reaches
        rw [← sameSize] at copied_eq atDistance
        rw [inOrder.copied_eq isZero isInFront atDistance] at copied_eq
        cases copied_eq
        exact .copy isZero isInFront sameSize (sameSize ▸ atDistance)
      · rw [copied_below (Nat.not_le.mp reaches)] at copied_eq
        cases copied_eq
  · intro isCoded
    cases isCoded with
    | byDefault => rfl
    | copy notZero isInFront sameSize atDistance =>
        rw [← sameSize] at atDistance ⊢
        exact inOrder.copied_eq notZero isInFront atDistance

theorem accepts_explicitDecoder (front : List ScalingList) (place : Nat × Nat) :
    Accepts (explicitDecoder place.1 place.2) fun list fields =>
      CodedBehind front place list (.flag true :: fields) := by
  refine ((accepts_constant _).bind fun constant => (accepts_coefficientsAfter _ _ _).bind
    fun coefficients => .done _).congr fun list fields => ?_
  constructor
  · rintro ⟨constant, _, _, ⟨isSome_eq, inRange, rfl⟩,
      ⟨_, _, _, ⟨coefficients, differences, rfl, rfl, sumsUp⟩, ⟨rfl, rfl⟩, rfl⟩, rfl⟩
    rw [List.append_nil]
    exact .explicit isSome_eq inRange sumsUp
  · intro isCoded
    cases isCoded with
    | explicit isSome_eq inRange sumsUp =>
        exact ⟨_, _, _, ⟨isSome_eq, inRange, rfl⟩,
          ⟨_, _, [], ⟨_, _, rfl, rfl, sumsUp⟩, ⟨rfl, rfl⟩, (List.append_nil _).symm⟩, rfl⟩

theorem accepts_decoder {front : List ScalingList} {place : Nat × Nat} {behind : List (Nat × Nat)}
    (inOrder : InOrder front (place :: behind)) :
    Accepts (decoder front place) (CodedBehind front place) := by
  have behindFlag (isExplicit : Bool) :
      Accepts (if isExplicit then explicitDecoder place.1 place.2 else
          Decoder.unsigned.bind fun distance =>
            Decoder.ofExcept (copied front place.1 place.2 distance))
        fun list fields => CodedBehind front place list (.flag isExplicit :: fields) := by
    cases isExplicit with
    | true => exact accepts_explicitDecoder front place
    | false =>
        refine (Accepts.bind .unsigned fun distance => .ofExcept _).congr fun list fields => ?_
        constructor
        · rintro ⟨distance, _, _, rfl, ⟨copied_eq, rfl⟩, rfl⟩
          exact inOrder.copied_eq_ok_iff.mp copied_eq
        · intro isCoded
          have copied_eq (distance : Nat)
              (isCopy : CodedBehind front place list [.flag false, .unsigned distance]) :=
            inOrder.copied_eq_ok_iff.mpr isCopy
          cases isCoded with
          | byDefault => exact ⟨0, _, [], rfl, ⟨copied_eq 0 .byDefault, rfl⟩, rfl⟩
          | @copy distance _ notZero isInFront sameSize atDistance =>
              have source_eq := copied_eq distance (.copy notZero isInFront sameSize atDistance)
              exact ⟨distance, _, [], rfl, ⟨source_eq, rfl⟩, rfl⟩
  refine (Accepts.bind .flag behindFlag).congr fun list fields => ?_
  constructor
  · rintro ⟨isExplicit, _, _, rfl, isCoded, rfl⟩
    exact isCoded
  · intro isCoded
    cases isCoded with
    | byDefault => exact ⟨false, _, _, rfl, .byDefault, rfl⟩
    | copy notZero isInFront sameSize atDistance =>
        exact ⟨false, _, _, rfl, .copy notZero isInFront sameSize atDistance, rfl⟩
    | explicit isSome_eq inRange sumsUp =>
        exact ⟨true, _, _, rfl, .explicit isSome_eq inRange sumsUp, rfl⟩

/-- A distance that follows a flag decides what the list is. -/
theorem run_decoder_of_passes {σ : Type} [BitSource σ] {reader last : Reader σ}
    {front : List ScalingList} {place : Nat × Nat} {distance : Nat}
    (passed : reader.Passes [.flag false, .unsigned distance] last) :
    (decoder front place).run reader = (copied front place.1 place.2 distance, last) := by
  obtain ⟨middle, flagPassed, distancePassed⟩ := Reader.passes_append_iff.mp
    (show reader.Passes ([.flag false] ++ [.unsigned distance]) last from passed)
  have flag_eq := (Accepts.flag.run_iff reader middle false).mpr ⟨_, rfl, flagPassed⟩
  have distance_eq := (Accepts.unsigned.run_iff middle last distance).mpr ⟨_, rfl, distancePassed⟩
  have run_eq := Decoder.run_bind Decoder.unsigned
    (fun distance => Decoder.ofExcept (copied front place.1 place.2 distance)) middle
  rw [distance_eq] at run_eq
  refine (Decoder.run_bind Decoder.flag _ reader).trans ?_
  rw [flag_eq]
  refine run_eq.trans ?_
  simp only
  rcases copied front place.1 place.2 distance with error | list
  · rfl
  · rfl

end ScalingList

namespace ScalingLists

open ScalingList (CodedBehind InOrder defaultList matrixStep places structureName)

/-! ## All lists -/

/-- How the lists at places are coded, one behind the other. -/
inductive CodedAlong : List ScalingList → List (Nat × Nat) → List ScalingList →
    List CodedField → Prop where
  | nil {front : List ScalingList} : CodedAlong front [] [] []
  /-- The next list is one of those in front for the lists behind it. -/
  | cons {front lists : List ScalingList} {list : ScalingList} {place : Nat × Nat}
      {places : List (Nat × Nat)} {fields behind : List CodedField}
      (isCoded : CodedBehind front place list fields)
      (areCoded : CodedAlong (front ++ [list]) places lists behind) :
      CodedAlong front (place :: places) (list :: lists) (fields ++ behind)

theorem accepts_listsAfter {front : List ScalingList} {places : List (Nat × Nat)}
    (inOrder : InOrder front places) :
    Accepts (listsAfter front places) fun result fields =>
      ∃ lists, result = front ++ lists ∧ CodedAlong front places lists fields := by
  induction places generalizing front with
  | nil =>
      refine (Accepts.done front).congr fun result fields => ?_
      constructor
      · rintro ⟨rfl, rfl⟩
        exact ⟨[], (List.append_nil _).symm, .nil⟩
      · rintro ⟨_, rfl, ⟨⟩⟩
        exact ⟨List.append_nil _, rfl⟩
  | cons place places inductionHypothesis =>
      refine ((ScalingList.accepts_decoder inOrder).bind_given fun list fields isCoded =>
        inductionHypothesis ?_).congr fun result fields => ?_
      · rw [← isCoded.place_eq] at inOrder
        exact inOrder.step
      · constructor
        · rintro ⟨list, fields, behind, isCoded, ⟨lists, rfl, areCoded⟩, rfl⟩
          refine ⟨list :: lists, ?_, .cons isCoded areCoded⟩
          rw [List.append_assoc, List.singleton_append]
        · rintro ⟨_, rfl, isAlong⟩
          cases isAlong with
          | @cons _ lists list _ _ fields behind isCoded areCoded =>
              refine ⟨list, fields, behind, isCoded, ⟨lists, ?_, areCoded⟩, rfl⟩
              rw [List.append_assoc, List.singleton_append]

theorem accepts_decoder :
    Accepts decoder fun lists fields => CodedAlong [] places lists.lists fields := by
  have inOrder : InOrder [] places := List.prefix_refl places
  have wrapped := (accepts_listsAfter inOrder).bind fun lists => Accepts.done (ScalingLists.mk lists)
  refine wrapped.within.congr fun lists fields => ?_
  constructor
  · rintro ⟨_, fields, _, ⟨lists, rfl, areCoded⟩, ⟨rfl, rfl⟩, rfl⟩
    rw [List.append_nil]
    exact areCoded
  · intro areCoded
    exact ⟨_, fields, [], ⟨lists.lists, rfl, areCoded⟩, ⟨rfl, rfl⟩, (List.append_nil _).symm⟩

/-! ## Origins -/

/-- A list has the numbers of coefficients that its size asks for, and they are those of an explicit
list or of a default one, of the same size, at its place or in front of it. -/
structure Resolved (lists : List ScalingList) (list : ScalingList) : Prop where
  length_eq : list.coefficients.length = if list.sizeId = 0 then 16 else 64
  isSome_eq : list.constantCoefficient.isSome = decide (1 < list.sizeId)
  exists_origin : ∃ origin ∈ lists,
    (origin.isExplicit = true ∨ origin = defaultList (origin.sizeId, origin.matrixId)) ∧
      origin.sizeId = list.sizeId ∧ origin.matrixId ≤ list.matrixId ∧
      list.coefficients = origin.coefficients ∧
      list.constantCoefficient = origin.constantCoefficient

namespace Resolved

variable {front lists : List ScalingList} {list : ScalingList}

theorem append (resolved : Resolved front list) (behind : List ScalingList) :
    Resolved (front ++ behind) list := by
  obtain ⟨origin, isInFront, isOrigin⟩ := resolved.exists_origin
  exact ⟨resolved.length_eq, resolved.isSome_eq, origin, List.mem_append_left behind isInFront,
    isOrigin⟩

/-- A list that is coded behind resolved ones is resolved. -/
theorem of_codedBehind {place : Nat × Nat} {fields : List CodedField}
    (isCoded : CodedBehind front place list fields)
    (resolved : ∀ list ∈ front, Resolved front list) : Resolved (front ++ [list]) list := by
  cases isCoded with
  | byDefault =>
      exact ⟨ScalingList.length_defaultCoefficients _ _, ScalingList.isSome_defaultConstant _, _,
        List.mem_append_right _ List.mem_cons_self, Or.inr rfl, rfl, Nat.le_refl _, rfl, rfl⟩
  | @copy distance source notZero isInFront sameSize atDistance =>
      obtain ⟨length_eq, isSome_eq, origin, originInFront, isOrigin, size_eq, matrix_le, equal⟩ :=
        resolved source isInFront
      refine ⟨length_eq, isSome_eq, origin, List.mem_append_left _ originInFront, isOrigin, size_eq,
        ?_, equal⟩
      simp only
      omega
  | explicit isSome_eq inRange sumsUp =>
      exact ⟨sumsUp.coefficients_length, isSome_eq, _, List.mem_append_right _ List.mem_cons_self,
        Or.inl rfl, rfl, Nat.le_refl _, rfl, rfl⟩

end Resolved

namespace CodedAlong

variable {front lists : List ScalingList} {places : List (Nat × Nat)} {fields : List CodedField}

theorem map_place (areCoded : CodedAlong front places lists fields) :
    lists.map ScalingList.place = places := by
  induction areCoded with
  | nil => rfl
  | cons isCoded _ inductionHypothesis =>
      rw [List.map_cons, isCoded.place_eq, inductionHypothesis]

theorem resolved (areCoded : CodedAlong front places lists fields)
    (resolved : ∀ list ∈ front, Resolved front list) :
    ∀ list ∈ front ++ lists, Resolved (front ++ lists) list := by
  induction areCoded with
  | nil =>
      rw [List.append_nil]
      exact resolved
  | @cons front lists list place places fields behind isCoded areCoded inductionHypothesis =>
      have next : ∀ other ∈ front ++ [list], Resolved (front ++ [list]) other := by
        rw [List.forall_mem_append, List.forall_mem_singleton]
        exact ⟨fun other isInFront => (resolved other isInFront).append [list],
          .of_codedBehind isCoded resolved⟩
      have all := inductionHypothesis next
      rwa [List.append_assoc, List.singleton_append] at all

end CodedAlong

/-! ## Distances -/

/-- The lists at some places are decoded in front of those at others. -/
theorem listsAfter_append (lists : List ScalingList) (front behind : List (Nat × Nat)) :
    listsAfter lists (front ++ behind) =
      (listsAfter lists front).bind fun decoded => listsAfter decoded behind := by
  induction front generalizing lists with
  | nil => rfl
  | cons place front inductionHypothesis =>
      refine Eq.trans ?_ (Decoder.bind_assoc _ _ _).symm
      exact congrArg (Decoder.bind _) (funext fun list => inductionHypothesis (lists ++ [list]))

section

variable {σ : Type} [BitSource σ] {reader middle stopped : Reader σ} {lists : List ScalingList}
  {front behind : List (Nat × Nat)} {place : Nat × Nat} {distance : Nat}

/-- Lists that are decoded stand at their places. -/
theorem inOrder_of_run (places_eq : places = front ++ behind)
    (run_eq : (listsAfter [] front).run reader = (.ok lists, middle)) : InOrder lists behind := by
  have inOrder : InOrder [] front := ⟨behind, places_eq.symm⟩
  obtain ⟨_, ⟨lists, rfl, areCoded⟩, _⟩ := ((accepts_listsAfter inOrder).run_iff _ _ _).mp run_eq
  rw [InOrder, areCoded.map_place]
  exact ⟨[], (List.append_nil _).trans places_eq.symm⟩

/-- Behind lists that are decoded, a distance decides how decoding goes on. -/
theorem run_of_passes (places_eq : places = front ++ place :: behind)
    (run_eq : (listsAfter [] front).run reader = (.ok lists, middle))
    (passed : middle.Passes [.flag false, .unsigned distance] stopped) :
    (listsAfter [] places).run reader =
      match ScalingList.copied lists place.1 place.2 distance with
      | .ok list => (listsAfter (lists ++ [list]) behind).run stopped
      | .error error => (.error error, stopped) := by
  rw [places_eq, listsAfter_append, Decoder.run_bind, run_eq]
  refine (Decoder.run_bind (ScalingList.decoder lists place)
    (fun list => listsAfter (lists ++ [list]) behind) middle).trans ?_
  rw [ScalingList.run_decoder_of_passes passed]
  rcases ScalingList.copied lists place.1 place.2 distance with error | list
  · rfl
  · rfl

/-- A distance that leads below the first kind of block ends decoding. -/
theorem run_of_below (places_eq : places = front ++ place :: behind)
    (run_eq : (listsAfter [] front).run reader = (.ok lists, middle))
    (passed : middle.Passes [.flag false, .unsigned distance] stopped)
    (below : place.2 < distance * matrixStep place.1) :
    decoder.run reader = (.error (.malformed structureName
      s!"scaling_list_pred_matrix_id_delta {distance} out of range"), stopped) := by
  have all_eq := run_of_passes places_eq run_eq passed
  rw [ScalingList.copied_below below] at all_eq
  have wrapped_eq := Decoder.run_bind (listsAfter [] places)
    (fun lists => Decoder.done (ScalingLists.mk lists)) reader
  rw [all_eq] at wrapped_eq
  refine (Decoder.run_within structureName none _ Decoder.done reader).trans ?_
  exact congrArg (resume _ _) wrapped_eq

/-- Another distance than zero that does not lead below the first kind of block leads to a list that
is decoded, and decoding goes on behind a copy of it. -/
theorem exists_run_of_reaches (places_eq : places = front ++ place :: behind)
    (run_eq : (listsAfter [] front).run reader = (.ok lists, middle))
    (passed : middle.Passes [.flag false, .unsigned distance] stopped) (notZero : distance ≠ 0)
    (reaches : distance * matrixStep place.1 ≤ place.2) :
    ∃ source ∈ lists, source.sizeId = place.1 ∧
      source.matrixId + distance * matrixStep place.1 = place.2 ∧
      (listsAfter [] places).run reader =
        (listsAfter (lists ++ [{ source with matrixId := place.2, isExplicit := false }])
          behind).run stopped := by
  have inOrder := inOrder_of_run places_eq run_eq
  obtain ⟨source, isInFront, sameSize, atDistance⟩ := inOrder.exists_source notZero reaches
  have all_eq := run_of_passes places_eq run_eq passed
  rw [← sameSize] at atDistance
  rw [← sameSize, inOrder.copied_eq notZero isInFront atDistance] at all_eq
  exact ⟨source, isInFront, sameSize, sameSize ▸ atDistance, all_eq⟩

end

/-- From every source of bits, the lists are decoded exactly if a reader passes the fields of each:
differences that its coefficients sum up, a distance of zero for the default list, or the distance
from a list of the same size in front of it, of which it is a copy. They are twenty, at their places,
with as many coefficients as their sizes ask for, and through copies of copies each goes back to an
explicit list or a default one. Behind lists that are decoded, a distance other than zero is refused
if it leads below the first kind of block. If it does not, a list stands where it leads, and decoding
goes on behind a copy of that list. -/
theorem decoder_resolves {σ : Type} [BitSource σ] :
    (∀ (reader last : Reader σ) (lists : ScalingLists),
        decoder.run reader = (.ok lists, last) ↔
          ∃ fields, CodedAlong [] places lists.lists fields ∧ reader.Passes fields last) ∧
      (∀ (reader last : Reader σ) (lists : ScalingLists), decoder.run reader = (.ok lists, last) →
        lists.lists.length = 20 ∧
          (lists.lists.map fun list => (list.sizeId, list.matrixId)) =
            ((List.range 3).flatMap fun sizeId => (List.range 6).map fun matrixId =>
              (sizeId, matrixId)) ++ [(3, 0), (3, 3)] ∧
          ∀ list ∈ lists.lists, Resolved lists.lists list) ∧
      ∀ (front : List (Nat × Nat)) (place : Nat × Nat) (behind : List (Nat × Nat))
        (reader middle stopped : Reader σ) (lists : List ScalingList) (distance : Nat),
        places = front ++ place :: behind →
        (listsAfter [] front).run reader = (.ok lists, middle) →
        middle.Passes [.flag false, .unsigned distance] stopped → distance ≠ 0 →
          (place.2 < distance * matrixStep place.1 →
            decoder.run reader = (.error (.malformed structureName
              s!"scaling_list_pred_matrix_id_delta {distance} out of range"), stopped)) ∧
          (distance * matrixStep place.1 ≤ place.2 →
            ∃ source ∈ lists, source.sizeId = place.1 ∧
              source.matrixId + distance * matrixStep place.1 = place.2 ∧
              (listsAfter [] places).run reader =
                (listsAfter (lists ++ [{ source with matrixId := place.2, isExplicit := false }])
                  behind).run stopped) := by
  refine ⟨fun reader last lists => accepts_decoder.run_iff _ _ _, ?_, ?_⟩
  · intro reader last lists run_eq
    obtain ⟨fields, areCoded, _⟩ := (accepts_decoder.run_iff _ _ _).mp run_eq
    have places_eq := areCoded.map_place
    refine ⟨?_, places_eq, areCoded.resolved (List.forall_mem_nil _)⟩
    have length_eq := congrArg List.length places_eq
    rwa [List.length_map] at length_eq
  · intro front place behind reader middle stopped lists distance places_eq run_eq passed notZero
    exact ⟨run_of_below places_eq run_eq passed,
      exists_run_of_reaches places_eq run_eq passed notZero⟩

/-- The first list of each size is a default one and the others copy the list in front of them, so
that the lists of inter blocks have the coefficients of intra blocks. The second list cannot lie two
behind its source. -/
theorem decoder_resolves_chains :
    let reader := PlainReader.ofBytes [0x48, 0x88, 0x89, 0x22, 0x22, 0x24, 0x88, 0x88, 0x92]
    let lists := places.map fun place => { defaultList (place.1, 0) with matrixId := place.2 }
    (decoder.run reader = (.ok ⟨lists⟩, PlainReader.before 72 []) ∧
        ∀ list ∈ lists, Resolved lists list) ∧
      (∃ source ∈ lists.take 19, source.sizeId = 3 ∧ source.matrixId + 1 * matrixStep 3 = 3 ∧
        (listsAfter [] places).run reader =
          (listsAfter (lists.take 19 ++ [{ source with matrixId := 3, isExplicit := false }])
            []).run (PlainReader.before 72 [])) ∧
      decoder.run (PlainReader.ofBytes [0x4c]) =
        (.error (.malformed "scaling_list_data"
          "scaling_list_pred_matrix_id_delta 2 out of range"),
            PlainReader.before 6 [false, false]) := by
  intro reader lists
  have run_eq : decoder.run reader = (.ok ⟨lists⟩, PlainReader.before 72 []) := rfl
  have front_eq : (listsAfter [] (places.take 19)).run reader =
      (.ok (lists.take 19), PlainReader.before 68 [false, false, true, false]) := rfl
  have passed : (PlainReader.before 68 [false, false, true, false]).Passes
      [.flag false, .unsigned 1] (PlainReader.before 72 []) := rfl
  have first_eq : (listsAfter [] [(0, 0)]).run (PlainReader.ofBytes [0x4c]) = (.ok
      [defaultList (0, 0)], PlainReader.before 2 [false, false, true, true, false, false]) := rfl
  have farPassed : (PlainReader.before 2 [false, false, true, true, false, false]).Passes
      [.flag false, .unsigned 2] (PlainReader.before 6 [false, false]) := rfl
  refine ⟨⟨run_eq, (decoder_resolves.2.1 reader _ _ run_eq).2.2⟩, ?_, ?_⟩
  · exact (decoder_resolves.2.2 (places.take 19) (3, 3) [] _ _ _ _ 1 rfl front_eq passed
      (by decide)).2 (by decide)
  · exact (decoder_resolves.2.2 [(0, 0)] (0, 1) (places.drop 2) _ _ _ _ 2 rfl first_eq farPassed
      (by decide)).1 (by decide)

end ScalingLists

end CodedVideo.Hevc
