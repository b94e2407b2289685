import CodedVideo.Proofs.Hevc.SetCandidates

/-!
# Predicted HEVC short-term reference picture sets

The bits of a predicted set name a source and a shift, and flag the candidates that the source has.
So they say by themselves what comes of them: the set of those candidates that are kept, or an error
and the bit at which it arises. Whatever a reader has done before, it ends there.

Main statement: `readers_predictSets`.
-/

namespace CodedVideo.Hevc

namespace ShortTermSet

open Decoder (EndsOn Reads)
open ExpGolomb (ReadAs wrappedCount)

/-! ## Endings -/

/-- The bits that say how far back the source stands, less one: there are some only behind the last
set of a sequence. Here and below `counter` shows how long a suffix is behind a number of zeros. -/
inductive DistanceCoded (counter : Nat → Nat) (index total : Nat) : List Bool → Nat → Prop where
  | coded {front : List Bool} {distanceMinus1 : Nat} (isBehind : index = total)
      (readAs : ReadAs counter distanceMinus1 front) (inRange : distanceMinus1 ≤ 4294967295) :
      DistanceCoded counter index total front distanceMinus1
  | inferred (isInside : index ≠ total) : DistanceCoded counter index total [] 0

/-- The bits name a source among the sets. -/
structure NamesSource (counter : Nat → Nat) (sets : List ShortTermSet) (index total : Nat)
    (front : List Bool) (distanceMinus1 : Nat) (source : ShortTermSet) : Prop where
  distance : DistanceCoded counter index total front distanceMinus1
  source_eq : source? sets index distanceMinus1 = some source

/-- The bits in front of the flags: they name a source and a shift, by its sign and its size less
one. -/
inductive Opens (counter : Nat → Nat) (sets : List ShortTermSet) (index total : Nat) :
    List Bool → ShortTermSet → SetPrediction → Prop where
  | intro {front back : List Bool} {distanceMinus1 : Nat} {source : ShortTermSet}
      (names : NamesSource counter sets index total front distanceMinus1 source) (negative : Bool)
      {minus1 : Nat} (readAs : ReadAs counter minus1 back) (inRange : minus1 ≤ 32767) :
      Opens counter sets index total (front ++ negative :: back) source
        { distanceMinus1, shift := if negative then -(minus1 + 1) else minus1 + 1 }

/-- A source that the bits open with has its pictures in output order. -/
def OpensOrdered (counter : Nat → Nat) (sets : List ShortTermSet) (index total : Nat)
    (bits : List Bool) : Prop :=
  ∀ {front source prediction}, Opens counter sets index total front source prediction →
    front <+: bits → source.line.Pairwise (· < ·)

/-- How decoding a predicted set ends in front of given bits: the result, and the number of bits
that are passed. -/
inductive PredictedEnding (counter : Nat → Nat) (sets : List ShortTermSet) (index total : Nat) :
    List Bool → Except Error ShortTermSet → Nat → Prop where
  /-- The code of the distance to the source cannot be read. -/
  | distanceUnread {bits : List Bool} {fault : BitFault} {count : Nat} (isBehind : index = total)
      (unread : CodeEnding counter CarriesUnsigned bits (.error fault) count) :
      PredictedEnding counter sets index total bits (.error (.unlocated fault)) count
  /-- No set stands at the distance. -/
  | noSource {front rest : List Bool} {distanceMinus1 : Nat}
      (distance : DistanceCoded counter index total front distanceMinus1)
      (notThere : source? sets index distanceMinus1 = none) :
      PredictedEnding counter sets index total (front ++ rest)
        (.error (.malformed structureName s!"delta_idx_minus1 {distanceMinus1} out of range"))
        front.length
  /-- The data ends in front of the sign of the shift. -/
  | signMissing {front : List Bool} {distanceMinus1 : Nat} {source : ShortTermSet}
      (names : NamesSource counter sets index total front distanceMinus1 source) :
      PredictedEnding counter sets index total front (.error (.unlocated .unexpectedEnd))
        front.length
  /-- The code of the shift cannot be read. -/
  | shiftUnread {front bits : List Bool} {distanceMinus1 count : Nat} {source : ShortTermSet}
      {fault : BitFault} (names : NamesSource counter sets index total front distanceMinus1 source)
      (negative : Bool) (unread : CodeEnding counter CarriesUnsigned bits (.error fault) count) :
      PredictedEnding counter sets index total (front ++ negative :: bits)
        (.error (.unlocated fault)) (front.length + (1 + count))
  /-- The shift is greater than one may be. -/
  | shiftTooFar {front back rest : List Bool} {distanceMinus1 minus1 : Nat} {source : ShortTermSet}
      (names : NamesSource counter sets index total front distanceMinus1 source) (negative : Bool)
      (readAs : ReadAs counter minus1 back) (inRange : minus1 ≤ 4294967295)
      (tooFar : 32767 < minus1) :
      PredictedEnding counter sets index total (front ++ negative :: (back ++ rest))
        (.error (.malformed structureName s!"POC delta {minus1} out of range"))
        (front.length + (1 + back.length))
  /-- The data ends in front of a flag. -/
  | flagMissing {front flags : List Bool} {source : ShortTermSet} {prediction : SetPrediction}
      {candidates : List Candidate} (opens : Opens counter sets index total front source prediction)
      (isAt : CandidatesAt (places source prediction.shift) candidates)
      (isPrefix : flags <+: candidates.flatMap Candidate.flags)
      (isProper : flags ≠ candidates.flatMap Candidate.flags) :
      PredictedEnding counter sets index total (front ++ flags)
        (.error (.unlocated .unexpectedEnd)) (front.length + flags.length)
  /-- More pictures are kept than a set may list. -/
  | tooMany {front rest : List Bool} {source : ShortTermSet} {prediction : SetPrediction}
      {candidates : List Candidate} (opens : Opens counter sets index total front source prediction)
      (isAt : CandidatesAt (places source prediction.shift) candidates)
      (tooMany : 16 < keptCount candidates) :
      PredictedEnding counter sets index total
        (front ++ (candidates.flatMap Candidate.flags ++ rest))
        (.error (.malformed structureName "predicted set lists too many pictures"))
        (front.length + (candidates.flatMap Candidate.flags).length)
  /-- The set lists the candidates that are kept. -/
  | set {front rest : List Bool} {source : ShortTermSet} {prediction : SetPrediction}
      {candidates : List Candidate} {set : ShortTermSet}
      (opens : Opens counter sets index total front source prediction)
      (isAt : CandidatesAt (places source prediction.shift) candidates)
      (few : keptCount candidates ≤ 16) (prediction_eq : set.prediction = some prediction)
      (lists : Lists candidates set) :
      PredictedEnding counter sets index total
        (front ++ (candidates.flatMap Candidate.flags ++ rest)) (.ok set)
        (front.length + (candidates.flatMap Candidate.flags).length)

section

variable {counter : Nat → Nat} {sets : List ShortTermSet} {index total : Nat}

/-! ### Endings are those of the decoder -/

theorem DistanceCoded.reads {front : List Bool} {distanceMinus1 : Nat}
    (distance : DistanceCoded wrappedCount index total front distanceMinus1) :
    (Decoder.whenElse (index == total) 0 Decoder.unsigned).Reads front distanceMinus1 := by
  cases distance with
  | coded isBehind readAs inRange =>
      rw [Decoder.whenElse, if_pos (beq_iff_eq.mpr isBehind)]
      exact .unsigned inRange readAs
  | inferred isInside =>
      rw [Decoder.whenElse, if_neg (mt beq_iff_eq.mp isInside)]
      exact .done 0

theorem reads_distanceDecoder {back : List Bool} {minus1 : Nat}
    (readAs : ReadAs wrappedCount minus1 back) (inRange : minus1 ≤ 32767) :
    distanceDecoder.Reads back (minus1 + 1) := by
  rw [← List.append_nil back]
  refine Reads.bind (.unsigned (Nat.le_trans inRange (by decide)) readAs) ?_
  exact Reads.bind (.require (decide_eq_true inRange)) (.done _)

/-- What is decoded behind the choice of a source. -/
def behindSource (source : ShortTermSet) (distanceMinus1 : Nat) : Decoder ShortTermSet := do
  let negative ← Decoder.flag
  let distance ← distanceDecoder
  let shift : Int := if negative then -distance else distance
  predictedFrom source { distanceMinus1, shift }

theorem NamesSource.endsOn {front bits : List Bool} {distanceMinus1 count : Nat}
    {source : ShortTermSet} {result : Except Error ShortTermSet}
    (names : NamesSource wrappedCount sets index total front distanceMinus1 source)
    (following : (behindSource source distanceMinus1).EndsOn bits result count) :
    (predictedDecoder sets index total).EndsOn (front ++ bits) result (front.length + count) := by
  refine EndsOn.behind names.distance.reads ?_
  rw [names.source_eq]
  exact following

theorem Opens.endsOn {front bits : List Bool} {source : ShortTermSet} {prediction : SetPrediction}
    {result : Except Error ShortTermSet} {count : Nat}
    (opens : Opens wrappedCount sets index total front source prediction)
    (following : (predictedFrom source prediction).EndsOn bits result count) :
    (predictedDecoder sets index total).EndsOn (front ++ bits) result (front.length + count) := by
  cases opens with
  | intro names negative readAs inRange =>
      rw [List.append_assoc, List.cons_append, List.length_append, Nat.add_assoc, List.length_cons,
        Nat.add_right_comm _ 1 count, Nat.add_comm _ 1]
      refine names.endsOn ?_
      refine EndsOn.behind (.flag negative) ?_
      exact EndsOn.behind (reads_distanceDecoder readAs inRange) following

/-- Each ending is the one of the decoder, if the source is in output order. -/
theorem PredictedEnding.endsOn {bits : List Bool} {result : Except Error ShortTermSet} {count : Nat}
    (ending : PredictedEnding wrappedCount sets index total bits result count)
    (ordered : OpensOrdered wrappedCount sets index total bits) :
    (predictedDecoder sets index total).EndsOn bits result count := by
  cases ending with
  | distanceUnread isBehind unread =>
      refine EndsOn.bind_error ?_
      rw [Decoder.whenElse, if_pos (beq_iff_eq.mpr isBehind)]
      exact .unsigned unread
  | noSource distance notThere =>
      refine EndsOn.behind_last distance.reads ?_
      rw [notThere]
      exact .abort _ _
  | @signMissing _ distanceMinus1 source names =>
      have missing : (behindSource source distanceMinus1).EndsOn []
          (.error (.unlocated .unexpectedEnd)) 0 :=
        EndsOn.bind_error fun _ => ⟨rfl, rfl⟩
      have ended := names.endsOn missing
      rw [List.append_nil] at ended
      exact ended
  | shiftUnread names negative unread =>
      refine names.endsOn (EndsOn.behind (.flag negative) (EndsOn.bind_error ?_))
      exact EndsOn.bind_error (.unsigned unread)
  | shiftTooFar names negative readAs inRange tooFar =>
      refine names.endsOn (EndsOn.behind (.flag negative) (EndsOn.bind_error ?_))
      refine EndsOn.behind_last (.unsigned inRange readAs) (EndsOn.bind_error ?_)
      exact .require (decide_eq_false (Nat.not_le.mpr tooFar)) _ _
  | flagMissing opens isAt isPrefix isProper =>
      obtain ⟨before, after, own, rfl, parts⟩ := isAt.exists_parts
      exact opens.endsOn (parts.failsCut_predictedFrom _ isPrefix isProper)
  | @tooMany front rest source prediction candidates opens isAt tooMany =>
      obtain ⟨before, after, own, rfl, parts⟩ := isAt.exists_parts
      have ended := parts.endsOn_predictedFrom rest
      rw [if_neg (Nat.not_le.mpr tooMany)] at ended
      exact opens.endsOn ended
  | @set front rest source prediction candidates set opens isAt few prediction_eq lists =>
      obtain ⟨before, after, own, rfl, parts⟩ := isAt.exists_parts
      have ended := parts.endsOn_predictedFrom rest
      have isOrdered := ordered opens (List.prefix_append _ _)
      rw [if_pos few,
        (parts.lists isOrdered (some prediction)).unique lists prediction_eq.symm] at ended
      exact opens.endsOn ended

/-! ### There is an ending on all bits -/

/-- Behind the choice of a source and a shift the flags decide. -/
theorem PredictedEnding.exists_of_opens {front flags : List Bool} {source : ShortTermSet}
    {prediction : SetPrediction} (opens : Opens counter sets index total front source prediction)
    (ordered : OpensOrdered counter sets index total (front ++ flags)) :
    ∃ result count, PredictedEnding counter sets index total (front ++ flags) result count := by
  obtain ⟨candidates, isAt, ⟨rest, rfl⟩ | ⟨isPrefix, isProper⟩⟩ :=
    exists_candidatesAt (places source prediction.shift) flags
  · by_cases few : keptCount candidates ≤ 16
    · obtain ⟨before, after, own, rfl, parts⟩ := isAt.exists_parts
      have isOrdered := ordered opens (List.prefix_append _ _)
      exact ⟨_, _, .set opens isAt few rfl (parts.lists isOrdered (some prediction))⟩
    · exact ⟨_, _, .tooMany opens isAt (Nat.lt_of_not_le few)⟩
  · exact ⟨_, _, .flagMissing opens isAt isPrefix isProper⟩

/-- Behind the choice of a source the shift decides, and the flags behind it. -/
theorem PredictedEnding.exists_of_namesSource {front bits : List Bool} {distanceMinus1 : Nat}
    {source : ShortTermSet}
    (names : NamesSource counter sets index total front distanceMinus1 source)
    (ordered : OpensOrdered counter sets index total (front ++ bits)) :
    ∃ result count, PredictedEnding counter sets index total (front ++ bits) result count := by
  rcases bits with _ | ⟨negative, bits⟩
  · rw [List.append_nil]
    exact ⟨_, _, .signMissing names⟩
  · obtain ⟨fault | minus1, count, ending⟩ := CodeEnding.exists_of_bits counter CarriesUnsigned bits
    · exact ⟨_, _, .shiftUnread names negative ending⟩
    · obtain ⟨inRange, back, rest, readAs, rfl⟩ := ending.exists_readAs
      by_cases tooFar : 32767 < minus1
      · exact ⟨_, _, .shiftTooFar names negative readAs inRange tooFar⟩
      · have opens := Opens.intro names negative readAs (Nat.le_of_not_lt tooFar)
        rw [← List.cons_append, ← List.append_assoc] at ordered ⊢
        exact exists_of_opens opens ordered

theorem PredictedEnding.exists_of_distance {front bits : List Bool} {distanceMinus1 : Nat}
    (distance : DistanceCoded counter index total front distanceMinus1)
    (ordered : OpensOrdered counter sets index total (front ++ bits)) :
    ∃ result count, PredictedEnding counter sets index total (front ++ bits) result count := by
  cases source_eq : source? sets index distanceMinus1 with
  | none => exact ⟨_, _, .noSource distance source_eq⟩
  | some source => exact exists_of_namesSource ⟨distance, source_eq⟩ ordered

theorem PredictedEnding.exists_of_bits {bits : List Bool}
    (ordered : OpensOrdered counter sets index total bits) :
    ∃ result count, PredictedEnding counter sets index total bits result count := by
  by_cases isBehind : index = total
  · obtain ⟨fault | distanceMinus1, count, ending⟩ :=
      CodeEnding.exists_of_bits counter CarriesUnsigned bits
    · exact ⟨_, _, .distanceUnread isBehind ending⟩
    · obtain ⟨inRange, front, rest, readAs, rfl⟩ := ending.exists_readAs
      exact exists_of_distance (.coded isBehind readAs inRange) ordered
  · exact exists_of_distance (.inferred isBehind) ordered

/-! ### Few bits -/

section

variable {other : Nat → Nat} {limit : Nat}
  (agree : ∀ zeros, zeros < limit → counter zeros = other zeros)

include agree

theorem DistanceCoded.congr {front : List Bool} {distanceMinus1 : Nat}
    (distance : DistanceCoded counter index total front distanceMinus1)
    (fits : front.length ≤ limit) : DistanceCoded other index total front distanceMinus1 := by
  cases distance with
  | coded isBehind readAs inRange =>
      refine .coded isBehind (readAs.congr fun zeros isFewer => ?_) inRange
      exact agree zeros (Nat.lt_of_lt_of_le isFewer fits)
  | inferred isInside => exact .inferred isInside

theorem NamesSource.congr {front : List Bool} {distanceMinus1 : Nat} {source : ShortTermSet}
    (names : NamesSource counter sets index total front distanceMinus1 source)
    (fits : front.length ≤ limit) :
    NamesSource other sets index total front distanceMinus1 source :=
  ⟨names.distance.congr agree fits, names.source_eq⟩

theorem Opens.congr {front : List Bool} {source : ShortTermSet} {prediction : SetPrediction}
    (opens : Opens counter sets index total front source prediction) (fits : front.length ≤ limit) :
    Opens other sets index total front source prediction := by
  cases opens with
  | intro names negative readAs inRange =>
      rw [List.length_append, List.length_cons] at fits
      refine .intro (names.congr agree (by omega)) negative (readAs.congr fun zeros isFewer => ?_)
        inRange
      exact agree zeros (by omega)

/-- Counters that agree on as many zeros as there are bits give the same endings. -/
theorem PredictedEnding.congr {bits : List Bool} {result : Except Error ShortTermSet} {count : Nat}
    (ending : PredictedEnding counter sets index total bits result count)
    (fits : bits.length ≤ limit) : PredictedEnding other sets index total bits result count := by
  have codes {inside : List Bool} {fault : BitFault} {passed : Nat}
      (unread : CodeEnding counter CarriesUnsigned inside (.error fault) passed)
      (isInside : inside.length ≤ limit) :
      CodeEnding other CarriesUnsigned inside (.error fault) passed := by
    refine unread.congr fun zeros rest inside_eq => agree zeros ?_
    rw [inside_eq, List.length_append, List.length_replicate, List.length_cons] at isInside
    omega
  cases ending with
  | distanceUnread isBehind unread => exact .distanceUnread isBehind (codes unread fits)
  | noSource distance notThere =>
      rw [List.length_append] at fits
      exact .noSource (distance.congr agree (by omega)) notThere
  | signMissing names => exact .signMissing (names.congr agree fits)
  | shiftUnread names negative unread =>
      rw [List.length_append, List.length_cons] at fits
      exact .shiftUnread (names.congr agree (by omega)) negative (codes unread (by omega))
  | shiftTooFar names negative readAs inRange tooFar =>
      rw [List.length_append, List.length_cons, List.length_append] at fits
      refine .shiftTooFar (names.congr agree (by omega)) negative
        (readAs.congr fun zeros isFewer => ?_) inRange tooFar
      exact agree zeros (by omega)
  | flagMissing opens isAt isPrefix isProper =>
      rw [List.length_append] at fits
      exact .flagMissing (opens.congr agree (by omega)) isAt isPrefix isProper
  | tooMany opens isAt tooMany =>
      rw [List.length_append] at fits
      exact .tooMany (opens.congr agree (by omega)) isAt tooMany
  | set opens isAt few prediction_eq lists =>
      rw [List.length_append] at fits
      exact .set (opens.congr agree (by omega)) isAt few prediction_eq lists

theorem OpensOrdered.congr {bits : List Bool}
    (ordered : OpensOrdered other sets index total bits) (fits : bits.length ≤ limit) :
    OpensOrdered counter sets index total bits := by
  intro front source prediction opens isPrefix
  exact ordered (opens.congr agree (Nat.le_trans isPrefix.length_le fits)) isPrefix

end

end

end ShortTermSet

/-! ## Readers of either kind -/

open ExpGolomb (wrappedCount wrappedCount_eq)
open ShortTermSet (OpensOrdered PredictedEnding)

/-- In front of a set that is predicted from an ordered one, decoding the set with a given index ends
as the bits behind the position say, and in no other way; errors are located at the bit where they
arise. -/
def PredictsSets {σ : Type} [BitSource σ] (counter : Nat → Nat) (sets : List ShortTermSet)
    (index total : Nat) (decoded : List Bool) (reader : Reader σ) : Prop :=
  ∀ bits, decoded.drop reader.position = true :: bits →
    OpensOrdered counter sets index total bits →
      ∀ outcome passed, reader.Gives (ShortTermSet.decoder sets index total) outcome passed ↔
        ∃ result count, PredictedEnding counter sets index total bits result count ∧
          passed = 1 + count ∧
          outcome =
            result.mapError (Error.locate ShortTermSet.structureName (reader.position + passed))

section

variable {σ : Type} [BitSource σ] {sets : List ShortTermSet} {index total : Nat}
  {decoded : List Bool} {reader : Reader σ}

/-- In at most `2 ^ 32` bits all zeros are counted. -/
theorem PredictsSets.counted (predicts : PredictsSets wrappedCount sets index total decoded reader)
    (fits : decoded.length ≤ 4294967296) : PredictsSets id sets index total decoded reader := by
  intro bits bits_eq ordered outcome passed
  have bits_fit : bits.length ≤ 4294967296 := by
    have length_eq := congrArg List.length bits_eq
    rw [List.length_drop, List.length_cons] at length_eq
    omega
  have agree (zeros : Nat) (few : zeros < 4294967296) : wrappedCount zeros = id zeros :=
    wrappedCount_eq few
  have disagree (zeros : Nat) (few : zeros < 4294967296) : id zeros = wrappedCount zeros :=
    (wrappedCount_eq few).symm
  rw [predicts bits bits_eq (ordered.congr agree bits_fit) outcome passed]
  constructor
  · rintro ⟨result, count, ending, passed_eq, outcome_eq⟩
    exact ⟨result, count, ending.congr agree bits_fit, passed_eq, outcome_eq⟩
  · rintro ⟨result, count, ending, passed_eq, outcome_eq⟩
    exact ⟨result, count, ending.congr disagree bits_fit, passed_eq, outcome_eq⟩

end

end CodedVideo.Hevc
