import CodedVideo.Proofs.Decoder.Endings
import CodedVideo.Proofs.Hevc.ShortTermOrder
import Mathlib.Data.List.Sort

/-!
# The candidates of predicted HEVC short-term reference picture sets

Each picture of the source of a predicted set, and the source's own picture, is shifted and then kept
or not. The flags say which ones are kept, in the order of the source: its pictures in front, those
behind, its own picture. The set lists what is kept by side, the closest first.

Main statements: `CandidateParts.lists` and `CandidateParts.endsOn_predictedFrom`.
-/

namespace CodedVideo.Hevc

namespace ShortTermSet

open Decoder (EndsOn FailsCut Reads)

/-! ## Candidates -/

/-- The flags of a candidate: whether it is used and, if it is not, whether it is kept. -/
def Candidate.flags (candidate : Candidate) : List Bool :=
  candidate.used :: if candidate.used then [] else [candidate.kept]

/-- The candidates stand at the given places, in this order, and those that are used are kept. -/
structure CandidatesAt (places : List Int) (candidates : List Candidate) : Prop where
  delta_eq : candidates.map (·.delta) = places
  kept_of_used : ∀ candidate ∈ candidates, candidate.used = true → candidate.kept = true

/-- Where the candidates of a predicted set stand, in the order of their flags: the pictures of the
source on both sides and its own picture, shifted. -/
def places (source : ShortTermSet) (shift : Int) : List Int :=
  (deltas source.before ++ deltas source.after ++ [0]).map (· + shift)

/-- How many candidates are kept and do not stand at the current picture. -/
def keptCount (candidates : List Candidate) : Nat :=
  candidates.countP fun candidate => candidate.kept && candidate.delta != 0

/-- The set lists each candidate that is kept and lies on one side of the current picture, with its
flag, once and nothing else: on both sides the closest first. -/
structure Lists (candidates : List Candidate) (set : ShortTermSet) : Prop where
  mem_before_iff : ∀ picture, picture ∈ set.before ↔ picture.delta < 0 ∧
    { delta := picture.delta, used := picture.used, kept := true } ∈ candidates
  mem_after_iff : ∀ picture, picture ∈ set.after ↔ 0 < picture.delta ∧
    { delta := picture.delta, used := picture.used, kept := true } ∈ candidates
  before_closest : set.before.Pairwise fun first second => second.delta < first.delta
  after_closest : set.after.Pairwise fun first second => first.delta < second.delta

/-- What a set lists decides the set, up to how it was predicted. -/
theorem Lists.unique {candidates : List Candidate} {set other : ShortTermSet}
    (lists : Lists candidates set) (others : Lists candidates other)
    (prediction_eq : set.prediction = other.prediction) : set = other := by
  have isStrict (r : Int → Int → Prop) [Std.Irrefl r] [Std.Asymm r] :
      Std.Irrefl (fun first second : ReferencePicture => r first.delta second.delta) ∧
        Std.Antisymm (fun first second : ReferencePicture => r first.delta second.delta) := by
    refine ⟨⟨fun picture => Std.Irrefl.irrefl picture.delta⟩, ⟨fun first second lt gt => ?_⟩⟩
    exact absurd gt (Std.Asymm.asymm _ _ lt)
  obtain ⟨_, _⟩ := isStrict (· > ·)
  obtain ⟨_, _⟩ := isStrict (· < ·)
  have before_eq : set.before = other.before := by
    apply lists.before_closest.eq_of_mem_iff others.before_closest
    intro picture
    rw [lists.mem_before_iff, others.mem_before_iff]
  have after_eq : set.after = other.after := by
    apply lists.after_closest.eq_of_mem_iff others.after_closest
    intro picture
    rw [lists.mem_after_iff, others.mem_after_iff]
  rcases set with ⟨prediction, before, after⟩
  rcases other with ⟨_, _, _⟩
  cases prediction_eq
  cases before_eq
  cases after_eq
  rfl

theorem mem_keep {onSide : Int → Bool} {candidates : List Candidate} {picture : ReferencePicture} :
    picture ∈ keep onSide candidates ↔ onSide picture.delta = true ∧
      { delta := picture.delta, used := picture.used, kept := true } ∈ candidates := by
  rw [keep, List.mem_map]
  constructor
  · rintro ⟨⟨delta, used, kept⟩, isFiltered, rfl⟩
    rcases List.mem_filter.mp isFiltered with ⟨isCandidate, isKept⟩
    obtain ⟨rfl, isOnSide⟩ := Bool.and_eq_true_iff.mp isKept
    exact ⟨isOnSide, isCandidate⟩
  · rintro ⟨isOnSide, isCandidate⟩
    exact ⟨_, List.mem_filter.mpr ⟨isCandidate, isOnSide⟩, rfl⟩

/-- The candidates in output order are those in the order of their flags. -/
theorem mem_candidateLine {before after : List Candidate} {own candidate : Candidate} :
    candidate ∈ candidateLine before after own ↔ candidate ∈ before ++ after ++ [own] := by
  rw [candidateLine, List.append_assoc, List.mem_append, List.mem_append, List.mem_reverse,
    List.mem_cons, List.mem_append, List.mem_singleton, or_comm (a := candidate = own)]

theorem length_keep (onSide : Int → Bool) (candidates : List Candidate) :
    (keep onSide candidates).length =
      candidates.countP fun candidate => candidate.kept && onSide candidate.delta := by
  rw [keep, List.length_map, List.countP_eq_length_filter]

/-- Each candidate that is kept lies on one side, unless it stands at the current picture. -/
theorem length_keep_add_length_keep (candidates : List Candidate) :
    (keep (· < 0) candidates).length + (keep (0 < ·) candidates).length = keptCount candidates := by
  rw [length_keep, length_keep, keptCount]
  induction candidates with
  | nil => rfl
  | cons candidate candidates inductionHypothesis =>
      simp only [List.countP_cons]
      rcases candidate with ⟨delta, used, kept⟩
      cases kept with
      | false => simpa using inductionHypothesis
      | true =>
          simp only [Bool.true_and, decide_eq_true_eq, bne_iff_ne, ne_eq]
          split <;> split <;> split <;> omega

theorem size_keep (prediction : Option SetPrediction) (before after : List Candidate)
    (own : Candidate) :
    size ⟨prediction, keepBefore before after own, keepAfter before after own⟩ =
      keptCount (before ++ after ++ [own]) := by
  rw [← length_keep_add_length_keep]
  simp only [size, keepBefore, keepAfter, length_keep, List.countP_append, List.countP_reverse,
    List.countP_cons, List.countP_nil]
  omega

/-! ## Candidates for a source -/

/-- The candidates for the pictures of a source in front, for those behind and for its own
picture. -/
structure CandidateParts (source : ShortTermSet) (shift : Int) (before after : List Candidate)
    (own : Candidate) : Prop where
  before : CandidatesAt (source.before.map fun picture => picture.delta + shift) before
  after : CandidatesAt (source.after.map fun picture => picture.delta + shift) after
  own : CandidatesAt [shift] [own]

theorem CandidatesAt.exists_parts {source : ShortTermSet} {shift : Int}
    {candidates : List Candidate} (isAt : CandidatesAt (places source shift) candidates) :
    ∃ before after own, candidates = before ++ after ++ [own] ∧
      CandidateParts source shift before after own := by
  rcases isAt with ⟨delta_eq, kept_of_used⟩
  rw [places, List.map_append, List.map_append, List.map_eq_append_iff] at delta_eq
  obtain ⟨sides, last, rfl, sides_eq, last_eq⟩ := delta_eq
  rw [List.map_eq_append_iff] at sides_eq
  obtain ⟨before, after, rfl, before_eq, after_eq⟩ := sides_eq
  rw [List.map_singleton, Int.zero_add, List.map_eq_singleton_iff] at last_eq
  obtain ⟨own, rfl, own_eq⟩ := last_eq
  rw [List.forall_mem_append, List.forall_mem_append] at kept_of_used
  rw [deltas, List.map_map] at before_eq after_eq
  exact ⟨before, after, own, rfl, ⟨before_eq, kept_of_used.1.1⟩, ⟨after_eq, kept_of_used.1.2⟩,
    ⟨congrArg (fun delta => [delta]) own_eq, kept_of_used.2⟩⟩

namespace CandidateParts

variable {source : ShortTermSet} {shift : Int} {before after : List Candidate} {own : Candidate}
  (parts : CandidateParts source shift before after own)

include parts

theorem own_eq : shift = own.delta :=
  (List.singleton_inj.mp parts.own.delta_eq).symm

/-- The candidates of an ordered source make a set that lists them. -/
theorem lists (ordered : source.line.Pairwise (· < ·)) (prediction : Option SetPrediction) :
    Lists (before ++ after ++ [own])
      ⟨prediction, keepBefore before after own, keepAfter before after own⟩ := by
  have increasing : ((candidateLine before after own).map (·.delta)).Pairwise (· < ·) := by
    rw [map_delta_candidateLine parts.before.delta_eq parts.after.delta_eq parts.own_eq]
    exact ordered.map _ fun first second isBefore => Int.add_lt_add_right isBefore _
  have lineIncreasing := pairwise_line_keep increasing prediction
  rw [line, List.pairwise_append, List.pairwise_reverse, List.pairwise_cons, deltas, deltas,
    List.pairwise_map, List.pairwise_map] at lineIncreasing
  constructor
  · intro picture
    rw [keepBefore_eq, mem_keep, decide_eq_true_iff, List.mem_reverse, mem_candidateLine]
  · intro picture
    rw [keepAfter_eq, mem_keep, decide_eq_true_iff, mem_candidateLine]
  · exact lineIncreasing.1
  · exact lineIncreasing.2.1.2

end CandidateParts

/-! ## Flags -/

theorem reads_candidate {candidate : Candidate}
    (kept_of_used : candidate.used = true → candidate.kept = true) :
    (candidateDecoder candidate.delta).Reads candidate.flags candidate := by
  rcases candidate with ⟨delta, used, kept⟩
  cases used with
  | true =>
      obtain rfl : kept = true := kept_of_used rfl
      exact .bind (.flag true) (.done _)
  | false => exact .bind (.flag false) (.bind (.flag kept) (.done _))

theorem failsCut_candidate (candidate : Candidate) :
    (candidateDecoder candidate.delta).FailsCut candidate.flags := by
  rcases candidate with ⟨delta, used, kept⟩
  cases used with
  | true => exact .bind (.flag true) (.flag true) (.nil _)
  | false =>
      refine .bind (.flag false) (.flag false) ?_
      exact .bind (.flag kept) (.flag kept) (.nil _)

namespace CandidatesAt

variable {places : List Int} {candidates : List Candidate} (isAt : CandidatesAt places candidates)

include isAt

theorem reads : (Decoder.each places candidateDecoder).Reads (candidates.flatMap Candidate.flags)
    candidates := by
  obtain rfl := isAt.delta_eq
  refine Reads.eachOnto ?_ []
  intro candidate isThere
  exact reads_candidate (isAt.kept_of_used candidate isThere)

theorem failsCut :
    (Decoder.each places candidateDecoder).FailsCut (candidates.flatMap Candidate.flags) := by
  obtain rfl := isAt.delta_eq
  refine FailsCut.eachOnto ?_ ?_ []
  · intro candidate isThere
    exact reads_candidate (isAt.kept_of_used candidate isThere)
  · intro candidate _
    exact failsCut_candidate candidate

theorem cons {candidate : Candidate} {delta : Int} (delta_eq : candidate.delta = delta)
    (kept_of_used : candidate.used = true → candidate.kept = true) :
    CandidatesAt (delta :: places) (candidate :: candidates) where
  delta_eq := congrArg₂ List.cons delta_eq isAt.delta_eq
  kept_of_used := List.forall_mem_cons.mpr ⟨kept_of_used, isAt.kept_of_used⟩

end CandidatesAt

/-- Bits open with the flags of candidates at given places, or they are cut short of such flags. -/
theorem exists_candidatesAt (places : List Int) (bits : List Bool) :
    ∃ candidates, CandidatesAt places candidates ∧
      ((∃ rest, bits = candidates.flatMap Candidate.flags ++ rest) ∨
        (bits <+: candidates.flatMap Candidate.flags ∧
          bits ≠ candidates.flatMap Candidate.flags)) := by
  induction places generalizing bits with
  | nil => exact ⟨[], ⟨rfl, List.forall_mem_nil _⟩, Or.inl ⟨bits, rfl⟩⟩
  | cons delta places inductionHypothesis =>
      -- Bits that open with the flags of one candidate go on as the bits behind those do.
      have opened (candidate : Candidate) (delta_eq : candidate.delta = delta)
          (kept_of_used : candidate.used = true → candidate.kept = true) (rest : List Bool) :
          ∃ candidates, CandidatesAt (delta :: places) candidates ∧
            ((∃ behind, candidate.flags ++ rest = candidates.flatMap Candidate.flags ++ behind) ∨
              (candidate.flags ++ rest <+: candidates.flatMap Candidate.flags ∧
                candidate.flags ++ rest ≠ candidates.flatMap Candidate.flags)) := by
        obtain ⟨candidates, isAt, ends⟩ := inductionHypothesis rest
        refine ⟨candidate :: candidates, isAt.cons delta_eq kept_of_used, ?_⟩
        rw [List.flatMap_cons]
        rcases ends with ⟨behind, rfl⟩ | ⟨isPrefix, isProper⟩
        · exact Or.inl ⟨behind, (List.append_assoc _ _ _).symm⟩
        · exact Or.inr ⟨(List.prefix_append_right_inj _).mpr isPrefix,
            fun parts => isProper (List.append_cancel_left parts)⟩
      obtain ⟨candidates, isAt, _⟩ := inductionHypothesis []
      match bits with
      | true :: rest => exact opened ⟨delta, true, true⟩ rfl (fun _ => rfl) rest
      | false :: kept :: rest =>
          exact opened ⟨delta, false, kept⟩ rfl (fun isUsed => nomatch isUsed) rest
      | [] =>
          refine ⟨⟨delta, true, true⟩ :: candidates, isAt.cons rfl fun _ => rfl, Or.inr ⟨?_, ?_⟩⟩
          · exact List.nil_prefix
          · exact (List.cons_ne_nil _ _).symm
      | [false] =>
          refine ⟨⟨delta, false, false⟩ :: candidates,
            isAt.cons rfl (fun isUsed => nomatch isUsed), Or.inr ⟨?_, ?_⟩⟩
          · exact ⟨false :: candidates.flatMap Candidate.flags, rfl⟩
          · exact fun parts => List.cons_ne_nil _ _ (List.cons.inj parts).2.symm

/-- The flags of all candidates are those of the three parts. -/
theorem flags_eq (before after : List Candidate) (own : Candidate) :
    (before ++ after ++ [own]).flatMap Candidate.flags =
      before.flatMap Candidate.flags ++ (after.flatMap Candidate.flags ++ own.flags) := by
  simp only [List.flatMap_append, List.flatMap_cons, List.flatMap_nil, List.append_nil,
    List.append_assoc]

/-! ## Predicting from a source -/

namespace CandidateParts

variable {source : ShortTermSet} {prediction : SetPrediction} {before after : List Candidate}
  {own : Candidate} (parts : CandidateParts source prediction.shift before after own)

include parts

theorem reads_own : (candidateDecoder prediction.shift).Reads own.flags own := by
  rw [parts.own_eq]
  exact reads_candidate (parts.own.kept_of_used own (List.mem_singleton_self own))

/-- Behind the flags of all candidates only their number is left to check. -/
theorem endsOn_predictedFrom (rest : List Bool) :
    (predictedFrom source prediction).EndsOn
      ((before ++ after ++ [own]).flatMap Candidate.flags ++ rest)
      (if keptCount (before ++ after ++ [own]) ≤ 16
        then .ok ⟨some prediction, keepBefore before after own, keepAfter before after own⟩
        else .error (.malformed structureName "predicted set lists too many pictures"))
      ((before ++ after ++ [own]).flatMap Candidate.flags).length := by
  rw [flags_eq, List.append_assoc, List.append_assoc, List.length_append, List.length_append,
    ← size_keep (some prediction)]
  refine EndsOn.behind parts.before.reads ?_
  refine EndsOn.behind parts.after.reads ?_
  refine EndsOn.behind_last parts.reads_own ?_
  split
  · next few => exact EndsOn.behind_nil (.require (decide_eq_true few)) (.done _ rest)
  · next tooMany => exact EndsOn.bind_error (.require (decide_eq_false tooMany) _ rest)

/-- Where the flags of the candidates are cut short, the data ends. -/
theorem failsCut_predictedFrom :
    (predictedFrom source prediction).FailsCut
      ((before ++ after ++ [own]).flatMap Candidate.flags) := by
  have ownCut : (candidateDecoder prediction.shift).FailsCut own.flags := by
    rw [parts.own_eq]
    exact failsCut_candidate own
  rw [flags_eq]
  refine FailsCut.bind parts.before.reads parts.before.failsCut ?_
  refine FailsCut.bind parts.after.reads parts.after.failsCut ?_
  rw [← List.append_nil own.flags]
  exact FailsCut.bind parts.reads_own ownCut (FailsCut.nil _)

end CandidateParts

end ShortTermSet

end CodedVideo.Hevc
