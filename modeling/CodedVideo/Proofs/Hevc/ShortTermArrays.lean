import CodedVideo.Proofs.Hevc.ShortTermOrder
import CodedVideo.Proofs.Hevc.SliceData
import CodedVideo.Proofs.IdTable

/-!
# HEVC short-term reference picture sets in arrays

A set can be kept in arrays, its distances apart from its flags, and decoded by loops over places in
them. Such loops can go wrong in two ways that a list of pictures cannot: a place may lie outside
its array, and a sum may leave the range of its type. Here both end the loop with a fault of its
own. The loops agree with the grammar whatever that fault is, so it never occurs: each place is in
range, and each sum has less than 22 binary digits.

Main statement: `shortTermSets_wellFormed`.
-/

namespace CodedVideo.Hevc

open Decoder (Mirrors Yields)
open ShortTermSet (Candidate)

/-! ## Arrays -/

/-- Pictures in two arrays. -/
structure PictureArrays where
  deltas : List Int := []
  used : List Bool := []
deriving DecidableEq, Repr

/-- A short-term set in arrays. -/
structure SetArrays where
  prediction : Option SetPrediction
  before : PictureArrays
  after : PictureArrays
deriving DecidableEq, Repr

/-- The flags of the candidates of a predicted set in two arrays. -/
structure CandidateFlags where
  used : List Bool := []
  kept : List Bool := []
deriving DecidableEq, Repr

/-- Adds a picture at the end of both arrays. -/
def PictureArrays.push (pictures : PictureArrays) (delta : Int) (used : Bool) : PictureArrays where
  deltas := pictures.deltas ++ [delta]
  used := pictures.used ++ [used]

/-- The arrays of a list of pictures. -/
def PictureArrays.ofList (pictures : List ReferencePicture) : PictureArrays where
  deltas := pictures.map (·.delta)
  used := pictures.map (·.used)

/-- The arrays of a set. -/
def ShortTermSet.arrays (set : ShortTermSet) : SetArrays where
  prediction := set.prediction
  before := .ofList set.before
  after := .ofList set.after

@[simp]
theorem ShortTermSet.arrays_before (set : ShortTermSet) : set.arrays.before = .ofList set.before :=
  rfl

@[simp]
theorem ShortTermSet.arrays_after (set : ShortTermSet) : set.arrays.after = .ofList set.after :=
  rfl

/-- The arrays of the flags of candidates. -/
def CandidateFlags.ofList (candidates : List Candidate) : CandidateFlags where
  used := candidates.map (·.used)
  kept := candidates.map (·.kept)

/-! ## Guarded steps -/

open Decoder

namespace SetArrays

/-- The numbers that are allowed are less than this in size: they have at most 22 binary digits. -/
def numberLimit : Nat := 4194304

/-- A number, or `fault` where it leaves its range. -/
def guarded (fault : Error) (number : Int) : Decoder Int :=
  if number.natAbs < numberLimit then done number else abort fault

/-- The entry of an array at a place, or `fault` where there is none. -/
def guardedEntry {α : Type} (fault : Error) (array : List α) (place : Nat) : Decoder α :=
  match array[place]? with
  | some entry => done entry
  | none => abort fault

/-! ## Loops -/

variable (fault : Error)

/-- The number of pictures in a set. -/
def size (set : SetArrays) : Nat :=
  set.before.deltas.length + set.after.deltas.length

/-- The loop over the pictures on one side of an explicit set. -/
def picturesAfter (sign : Int) : Nat → Int → PictureArrays → Decoder PictureArrays
  | 0, _, pictures => done pictures
  | count + 1, last, pictures => do
      let delta ← guarded fault (last + sign * (← ShortTermSet.distanceDecoder))
      let used ← flag
      picturesAfter sign count delta (pictures.push delta used)

/-- An explicit set. -/
def explicitDecoder : Decoder SetArrays := do
  let beforeCount ← unsigned
  let afterCount ← unsigned
  require (beforeCount + afterCount ≤ ShortTermSet.maxPictures)
    (.malformed ShortTermSet.structureName
      s!"{beforeCount} negative and {afterCount} positive pictures")
  let before ← picturesAfter fault (-1) beforeCount 0 {}
  let after ← picturesAfter fault 1 afterCount 0 {}
  return { prediction := none, before, after }

/-- The loop over the flags of the candidates. -/
def flagsAfter : Nat → CandidateFlags → Decoder CandidateFlags
  | 0, flags => done flags
  | count + 1, flags => do
      let used ← flag
      let kept ← whenElse (!used) true flag
      flagsAfter count { used := flags.used ++ [used], kept := flags.kept ++ [kept] }

/-- Adds the candidate with a distance, whose flags stand at `place`, if it is on the side and kept.
-/
def gather (onSide : Int → Bool) (flags : CandidateFlags) (delta : Int) (place : Nat)
    (pictures : PictureArrays) : Decoder PictureArrays := do
  if onSide delta then
    if ← guardedEntry fault flags.kept place then
      return pictures.push delta (← guardedEntry fault flags.used place)
    else return pictures
  else return pictures

/-- The loop over the pictures at `places` of an array, whose flags stand `offset` places further
on. -/
def gatherAll (onSide : Int → Bool) (flags : CandidateFlags) (shift : Int) (deltas : List Int)
    (offset : Nat) : List Nat → PictureArrays → Decoder PictureArrays
  | [], pictures => done pictures
  | place :: places, pictures => do
      let delta ← guarded fault ((← guardedEntry fault deltas place) + shift)
      let pictures ← gather fault onSide flags delta (offset + place) pictures
      gatherAll onSide flags shift deltas offset places pictures

/-- The pictures of a predicted set: three loops for each side. -/
def predictedFrom (source : SetArrays) (prediction : SetPrediction) : Decoder SetArrays := do
  let beforePlaces := List.range source.before.deltas.length
  let afterPlaces := List.range source.after.deltas.length
  let offset := source.before.deltas.length
  let shift := prediction.shift
  let flags ← flagsAfter (source.size + 1) {}
  let before ← gatherAll fault (· < 0) flags shift source.after.deltas offset afterPlaces.reverse {}
  let before ← gather fault (· < 0) flags shift source.size before
  let before ← gatherAll fault (· < 0) flags shift source.before.deltas 0 beforePlaces before
  let after ← gatherAll fault (0 < ·) flags shift source.before.deltas 0 beforePlaces.reverse {}
  let after ← gather fault (0 < ·) flags shift source.size after
  let after ← gatherAll fault (0 < ·) flags shift source.after.deltas offset afterPlaces after
  let set : SetArrays := { prediction := some prediction, before, after }
  require (set.size ≤ ShortTermSet.maxPictures)
    (.malformed ShortTermSet.structureName "predicted set lists too many pictures")
  return set

/-- The set that stands `distanceMinus1 + 1` places in front of a given one. -/
def source? (sets : List SetArrays) (index distanceMinus1 : Nat) : Option SetArrays :=
  if distanceMinus1 < index then sets[index - (distanceMinus1 + 1)]? else none

/-- A predicted set. -/
def predictedDecoder (sets : List SetArrays) (index total : Nat) : Decoder SetArrays := do
  let distanceMinus1 ← whenElse (index == total) 0 unsigned
  match source? sets index distanceMinus1 with
  | none =>
      abort (.malformed ShortTermSet.structureName
        s!"delta_idx_minus1 {distanceMinus1} out of range")
  | some source =>
      let negative ← flag
      let distance ← ShortTermSet.distanceDecoder
      let shift ← guarded fault (if negative then -distance else distance)
      predictedFrom fault source { distanceMinus1, shift }

/-- The set with a given index, behind `sets`, in a sequence of `total` sets. -/
def decoder (sets : List SetArrays) (index total : Nat) : Decoder SetArrays :=
  located ShortTermSet.structureName do
    let predicted ← whenElse (index != 0) false flag
    if predicted then predictedDecoder fault sets index total else explicitDecoder fault

/-- All sets of a sequence. -/
def sequenceDecoder (total : Nat) : Decoder (List SetArrays) :=
  foldFrom (fun index sets => do return sets ++ [← decoder fault sets index total]) total 0 []

end SetArrays

/-! ## The loops agree with the grammar -/

namespace SetArrays

variable {fault : Error}

theorem guarded_eq {number : Int} (inRange : number.natAbs < numberLimit) :
    guarded fault number = Decoder.done number :=
  if_pos inRange

theorem guardedEntry_eq {α : Type} {array : List α} {place : Nat} {entry : α}
    (isThere : array[place]? = some entry) : guardedEntry fault array place = Decoder.done entry := by
  rw [guardedEntry, isThere]

theorem size_arrays (set : ShortTermSet) : set.arrays.size = set.size := by
  simp [size, ShortTermSet.arrays, ShortTermSet.size, PictureArrays.ofList]

theorem ofList_push (pictures : List ReferencePicture) (delta : Int) (used : Bool) :
    (PictureArrays.ofList pictures).push delta used =
      .ofList (pictures ++ [(⟨delta, used⟩ : ReferencePicture)]) := by
  simp [PictureArrays.push, PictureArrays.ofList]

/-! ### Explicit sets -/

/-- The running sums of an explicit set stay in range. -/
theorem mirrors_picturesAfter {sign : Int} (isSign : sign.natAbs = 1) (count : Nat) {last : Int}
    (inRange : last.natAbs + count * ShortTermSet.maxDistance < numberLimit)
    (others : List ReferencePicture) :
    Mirrors PictureArrays.ofList (picturesAfter fault sign count last (.ofList others.reverse))
      (ShortTermSet.picturesAfter sign count last others) := by
  induction count generalizing last others with
  | zero => exact Mirrors.done others.reverse
  | succ count inductionHypothesis =>
      refine Mirrors.behind_yields ShortTermSet.yields_distanceDecoder fun distance isDistance => ?_
      obtain ⟨minus1, distance_le, rfl⟩ := isDistance
      have step_le : (sign * (minus1 + 1 : Nat)).natAbs ≤ ShortTermSet.maxDistance := by
        rw [Int.natAbs_mul, isSign, Nat.one_mul, Int.natAbs_natCast]
        exact Nat.succ_le_succ distance_le
      rw [Nat.succ_mul] at inRange
      have stepInRange : (last + sign * (minus1 + 1 : Nat)).natAbs +
          count * ShortTermSet.maxDistance < numberLimit := by
        omega
      rw [guarded_eq (Nat.lt_of_le_of_lt (Nat.le_add_right _ _) stepInRange),
        Decoder.monadBind_eq, Decoder.done_bind]
      dsimp only
      refine Mirrors.behind fun used => ?_
      rw [ofList_push, ← List.reverse_cons]
      exact inductionHypothesis stepInRange _

theorem mirrors_explicitDecoder :
    Mirrors ShortTermSet.arrays (explicitDecoder fault) ShortTermSet.explicitDecoder := by
  refine Mirrors.behind fun beforeCount => ?_
  refine Mirrors.behind fun afterCount => ?_
  refine Mirrors.behind_yields Yields.require fun _ sizeInRange => ?_
  have size_le := of_decide_eq_true sizeInRange
  have inRange {count : Nat} (count_le : count ≤ beforeCount + afterCount) :
      (0 : Int).natAbs + count * ShortTermSet.maxDistance < numberLimit := by
    simp only [ShortTermSet.maxPictures] at size_le
    simp only [ShortTermSet.maxDistance, ShortTermSet.maxDistanceMinus1, numberLimit]
    omega
  have before : Mirrors PictureArrays.ofList (picturesAfter fault (-1) beforeCount 0 {}) _ :=
    mirrors_picturesAfter rfl beforeCount (inRange (Nat.le_add_right _ _)) []
  have after : Mirrors PictureArrays.ofList (picturesAfter fault 1 afterCount 0 {}) _ :=
    mirrors_picturesAfter rfl afterCount (inRange (Nat.le_add_left _ _)) []
  refine Mirrors.bind before (Yields.trivial _) fun before _ => ?_
  refine Mirrors.bind after (Yields.trivial _) fun after _ => ?_
  exact Mirrors.done (⟨none, before, after⟩ : ShortTermSet)

/-! ### Flags of candidates -/

theorem mirrors_candidateDecoder (front : List Candidate) (delta : Int) :
    Mirrors (fun candidate => .ofList (front ++ [candidate])) (flagsAfter 1 (.ofList front))
      (ShortTermSet.candidateDecoder delta) := by
  refine Mirrors.behind fun used => ?_
  refine Mirrors.behind fun kept => ?_
  have ofList_eq : CandidateFlags.ofList (front ++ [(⟨delta, used, kept⟩ : Candidate)]) =
      ⟨(CandidateFlags.ofList front).used ++ [used], (CandidateFlags.ofList front).kept ++ [kept]⟩ := by
    simp [CandidateFlags.ofList]
  rw [← ofList_eq]
  exact Mirrors.done (⟨delta, used, kept⟩ : Candidate)

/-- A loop over flags can be left and entered again. -/
theorem flagsAfter_add (first second : Nat) (flags : CandidateFlags) :
    flagsAfter (first + second) flags = (flagsAfter first flags).bind (flagsAfter second) := by
  induction first generalizing flags with
  | zero =>
      rw [Nat.zero_add]
      rfl
  | succ first inductionHypothesis =>
      rw [Nat.succ_add, flagsAfter, flagsAfter]
      simp only [inductionHypothesis, Decoder.monadBind_eq, Decoder.bind_assoc]

theorem mirrors_each_candidates (front : List Candidate) (deltas : List Int) :
    Mirrors (fun candidates => .ofList (front ++ candidates))
      (flagsAfter deltas.length (.ofList front))
      (Decoder.each deltas ShortTermSet.candidateDecoder) := by
  have onto (others : List Candidate) :
      Mirrors (fun candidates => .ofList (front ++ candidates))
        (flagsAfter deltas.length (.ofList (front ++ others.reverse)))
        (Decoder.eachOnto ShortTermSet.candidateDecoder deltas others) := by
    induction deltas generalizing others with
    | nil => exact Mirrors.done others.reverse
    | cons delta deltas inductionHypothesis =>
        rw [List.length_cons, Nat.add_comm, flagsAfter_add]
        refine Mirrors.bind (mirrors_candidateDecoder _ delta) (Yields.trivial _)
          fun candidate _ => ?_
        have following := inductionHypothesis (candidate :: others)
        rwa [List.reverse_cons, ← List.append_assoc] at following
  have started := onto []
  rwa [List.reverse_nil, List.append_nil] at started

/-! ### Predicted sets -/

theorem gather_eq (onSide : Int → Bool) {flagged : List Candidate} {place : Nat}
    {candidate : Candidate} (isThere : flagged[place]? = some candidate)
    (pictures : List ReferencePicture) :
    gather fault onSide (.ofList flagged) candidate.delta place (.ofList pictures) =
      Decoder.done (.ofList (pictures ++ ShortTermSet.keep onSide [candidate])) := by
  have usedThere : (CandidateFlags.ofList flagged).used[place]? = some candidate.used := by
    simp [CandidateFlags.ofList, isThere]
  have keptThere : (CandidateFlags.ofList flagged).kept[place]? = some candidate.kept := by
    simp [CandidateFlags.ofList, isThere]
  rw [gather, guardedEntry_eq usedThere, guardedEntry_eq keptThere]
  cases onSide_eq : onSide candidate.delta with
  | false => simp [ShortTermSet.keep, onSide_eq]; rfl
  | true =>
      cases kept_eq : candidate.kept with
      | false => simp [ShortTermSet.keep, kept_eq]; rfl
      | true =>
          simp [ShortTermSet.keep, onSide_eq, kept_eq, ofList_push]
          rfl

/-- Candidate and place belong together: the picture at the place is shifted to the candidate, whose
flags stand `offset` places further on. -/
structure Placed (flagged : List Candidate) (shift : Int) (deltas : List Int) (offset place : Nat)
    (candidate : Candidate) : Prop where
  shifted : ∃ delta, deltas[place]? = some delta ∧ delta + shift = candidate.delta
  inRange : candidate.delta.natAbs < numberLimit
  isFlagged : flagged[offset + place]? = some candidate

/-- A loop over places gathers the candidates that belong to them. -/
theorem gatherAll_eq (onSide : Int → Bool) {flagged candidates : List Candidate} {shift : Int}
    {deltas : List Int} {offset : Nat} {places : List Nat}
    (placed : List.Forall₂ (Placed flagged shift deltas offset) places candidates)
    (pictures : List ReferencePicture) :
    gatherAll fault onSide (.ofList flagged) shift deltas offset places (.ofList pictures) =
      Decoder.done (.ofList (pictures ++ ShortTermSet.keep onSide candidates)) := by
  induction placed generalizing pictures with
  | nil => rw [ShortTermSet.keep, List.filter_nil, List.map_nil, List.append_nil]; rfl
  | @cons place candidate places candidates isPlaced _ inductionHypothesis =>
      obtain ⟨delta, isThere, delta_eq⟩ := isPlaced.shifted
      have keep_cons : ShortTermSet.keep onSide (candidate :: candidates) =
          ShortTermSet.keep onSide [candidate] ++ ShortTermSet.keep onSide candidates := by
        rw [ShortTermSet.keep, ShortTermSet.keep, ShortTermSet.keep, ← List.map_append,
          ← List.filter_append, List.singleton_append]
      rw [gatherAll, guardedEntry_eq isThere, Decoder.monadBind_eq, Decoder.done_bind, delta_eq,
        guarded_eq isPlaced.inRange, Decoder.monadBind_eq, Decoder.done_bind,
        gather_eq onSide isPlaced.isFlagged, Decoder.monadBind_eq, Decoder.done_bind,
        inductionHypothesis, List.append_assoc, ← keep_cons]

/-- The candidates for the pictures of one side belong to the places of those. -/
theorem placed_range (front : List Candidate) {candidates back : List Candidate} {shift : Int}
    {deltas : List Int}
    (shifted : candidates.map (·.delta) = deltas.map (· + shift))
    (inRange : ∀ candidate ∈ candidates, candidate.delta.natAbs < numberLimit) :
    List.Forall₂ (Placed (front ++ (candidates ++ back)) shift deltas front.length)
      (List.range deltas.length) candidates := by
  have length_eq : deltas.length = candidates.length := by
    have lengths := congrArg List.length shifted
    rw [List.length_map, List.length_map] at lengths
    exact lengths.symm
  rw [List.forall₂_iff_get]
  refine ⟨by rw [List.length_range, length_eq], fun place isPlace isCandidate => ?_⟩
  rw [List.get_eq_getElem, List.get_eq_getElem, List.getElem_range]
  have isDelta : place < deltas.length := length_eq ▸ isCandidate
  constructor
  · refine ⟨deltas[place], List.getElem?_eq_getElem isDelta, ?_⟩
    have entries := congrArg (fun list : List Int => list[place]?) shifted
    simpa [isDelta, isCandidate] using entries.symm
  · exact inRange _ (List.getElem_mem isCandidate)
  · rw [List.getElem?_append_right (Nat.le_add_right _ _), Nat.add_sub_cancel_left,
      List.getElem?_append_left isCandidate, List.getElem?_eq_getElem isCandidate]

/-- The candidates for the pictures of an ordered set stay in range under the shift. -/
theorem inRange_of_shifted {source : ShortTermSet} {bound : Nat} (ordered : source.Ordered bound)
    {shift : Int} (inRange : bound + shift.natAbs < numberLimit) {candidates : List Candidate}
    {deltas : List Int} (isPart : ∀ delta ∈ deltas, delta ∈ source.line)
    (shifted : candidates.map (·.delta) = deltas.map (· + shift)) :
    ∀ candidate ∈ candidates, candidate.delta.natAbs < numberLimit := by
  intro candidate isCandidate
  have isShifted : candidate.delta ∈ deltas.map (· + shift) :=
    shifted ▸ List.mem_map_of_mem isCandidate
  obtain ⟨delta, isDelta, delta_eq⟩ := List.mem_map.mp isShifted
  have delta_le := ordered.delta_le delta (isPart delta isDelta)
  omega

theorem keep_append (onSide : Int → Bool) (first second : List Candidate) :
    ShortTermSet.keep onSide (first ++ second) =
      ShortTermSet.keep onSide first ++ ShortTermSet.keep onSide second := by
  simp [ShortTermSet.keep]

/-- The three loops over the candidates of one side gather those that are kept, and what follows is
given their arrays. -/
theorem gatherSide_bind {α : Type} (onSide : Int → Bool) {flagged near far : List Candidate}
    {own : Candidate} {shift : Int} {nearDeltas farDeltas : List Int}
    {nearOffset farOffset ownPlace : Nat} {nearPlaces farPlaces : List Nat}
    (nearPlaced : List.Forall₂ (Placed flagged shift nearDeltas nearOffset) nearPlaces near)
    (farPlaced : List.Forall₂ (Placed flagged shift farDeltas farOffset) farPlaces far)
    (ownFlagged : flagged[ownPlace]? = some own) (ownShifted : shift = own.delta)
    (next : PictureArrays → Decoder α) :
    ((gatherAll fault onSide (.ofList flagged) shift nearDeltas nearOffset nearPlaces {}).bind
      fun pictures => (gather fault onSide (.ofList flagged) shift ownPlace pictures).bind
        fun pictures =>
          (gatherAll fault onSide (.ofList flagged) shift farDeltas farOffset farPlaces pictures).bind
            next) =
      next (.ofList (ShortTermSet.keep onSide (near ++ own :: far))) := by
  have noPictures : ({} : PictureArrays) = .ofList [] := rfl
  subst ownShifted
  rw [noPictures, gatherAll_eq onSide nearPlaced, Decoder.done_bind, gather_eq onSide ownFlagged,
    Decoder.done_bind, gatherAll_eq onSide farPlaced, Decoder.done_bind, List.nil_append,
    List.append_assoc, ← keep_append, ← keep_append, List.singleton_append]

/-- The distances in the arrays of a side are those that are shifted. -/
theorem map_deltas_ofList (pictures : List ReferencePicture) (shift : Int) :
    (PictureArrays.ofList pictures).deltas.map (· + shift) =
      pictures.map fun picture => picture.delta + shift := by
  simp [PictureArrays.ofList, Function.comp_def]

/-- The flags of the candidates stand in the order in which they are read: those of the pictures
before the source, those of the pictures after it, and its own. -/
theorem placed_candidates {source : ShortTermSet} {bound : Nat} (ordered : source.Ordered bound)
    {shift : Int} (inRange : bound + shift.natAbs < numberLimit) {before after : List Candidate}
    (beforeShifted : before.map (·.delta) = source.before.map fun picture => picture.delta + shift)
    (afterShifted : after.map (·.delta) = source.after.map fun picture => picture.delta + shift)
    (own : Candidate) :
    List.Forall₂ (Placed (before ++ (after ++ [own])) shift source.arrays.before.deltas 0)
        (List.range source.arrays.before.deltas.length) before ∧
      List.Forall₂
        (Placed (before ++ (after ++ [own])) shift source.arrays.after.deltas
          source.arrays.before.deltas.length)
        (List.range source.arrays.after.deltas.length) after ∧
      (before ++ (after ++ [own]))[source.arrays.size]? = some own := by
  replace beforeShifted := beforeShifted.trans (map_deltas_ofList _ _).symm
  replace afterShifted := afterShifted.trans (map_deltas_ofList _ _).symm
  have beforeLength : source.arrays.before.deltas.length = before.length := by
    simpa using (congrArg List.length beforeShifted).symm
  have size_eq : source.arrays.size = before.length + after.length := by
    rw [size, beforeLength]
    simpa using (congrArg List.length afterShifted).symm
  refine ⟨?_, ?_, ?_⟩
  · refine placed_range [] beforeShifted
      (inRange_of_shifted ordered inRange (fun delta isDelta => ?_) beforeShifted)
    exact List.mem_append_left _ (List.mem_reverse.mpr isDelta)
  · rw [beforeLength]
    refine placed_range before afterShifted
      (inRange_of_shifted ordered inRange (fun delta isDelta => ?_) afterShifted)
    exact List.mem_append_right _ (List.mem_cons_of_mem 0 isDelta)
  · rw [size_eq]
    simp

theorem mirrors_predictedFrom {source : ShortTermSet} {bound : Nat} (ordered : source.Ordered bound)
    {prediction : SetPrediction} (inRange : bound + prediction.shift.natAbs < numberLimit) :
    Mirrors ShortTermSet.arrays (predictedFrom fault source.arrays prediction)
      (ShortTermSet.predictedFrom source prediction) := by
  let shifted (pictures : List ReferencePicture) : List Int :=
    pictures.map fun picture => picture.delta + prediction.shift
  have flags_eq : flagsAfter (source.arrays.size + 1) {} =
      (flagsAfter (shifted source.before).length {}).bind fun flags =>
        (flagsAfter (shifted source.after).length flags).bind (flagsAfter 1) := by
    rw [size_arrays, ShortTermSet.size, flagsAfter_add, flagsAfter_add, Decoder.bind_assoc,
      List.length_map, List.length_map]
  rw [predictedFrom, flags_eq, Decoder.monadBind_eq, Decoder.bind_assoc]
  refine Mirrors.bind (mirrors_each_candidates [] _) (ShortTermSet.yields_each_candidates _)
    fun before beforeShifted => ?_
  rw [Decoder.bind_assoc]
  refine Mirrors.bind (mirrors_each_candidates _ _) (ShortTermSet.yields_each_candidates _)
    fun after afterShifted => ?_
  refine Mirrors.bind (mirrors_candidateDecoder _ _) (ShortTermSet.yields_candidateDecoder _)
    fun own ownShifted => ?_
  rw [List.nil_append, List.append_assoc]
  obtain ⟨beforePlaced, afterPlaced, ownFlagged⟩ :=
    placed_candidates ordered inRange beforeShifted afterShifted own
  simp only [Decoder.monadBind_eq]
  rw [gatherSide_bind _ (List.rel_reverse afterPlaced) beforePlaced ownFlagged ownShifted,
    gatherSide_bind _ (List.rel_reverse beforePlaced) afterPlaced ownFlagged ownShifted]
  let set : ShortTermSet := {
    prediction := some prediction
    before := ShortTermSet.keepBefore before after own
    after := ShortTermSet.keepAfter before after own }
  change Mirrors _ ((Decoder.require (set.arrays.size ≤ ShortTermSet.maxPictures) _).bind
    fun _ => Decoder.done set.arrays) _
  rw [size_arrays]
  exact Mirrors.behind fun _ => Mirrors.done set

/-! ### Chains of sets -/

theorem source?_map (sets : List ShortTermSet) (index distanceMinus1 : Nat) :
    source? (sets.map ShortTermSet.arrays) index distanceMinus1 =
      (ShortTermSet.source? sets index distanceMinus1).map ShortTermSet.arrays := by
  rw [source?, ShortTermSet.source?]
  split
  · exact List.getElem?_map
  · rfl

/-- The distances that a chain of at most 64 sets and a set behind it can reach are in range. -/
theorem deltaBound_lt {count : Nat} (count_le : count ≤ 65) :
    ShortTermSet.deltaBound count < numberLimit := by
  simp only [ShortTermSet.deltaBound, ShortTermSet.maxPictures, ShortTermSet.maxDistance,
    ShortTermSet.maxDistanceMinus1, numberLimit]
  omega

/-- Behind a chain of at most 64 sets the loops stay in range. -/
theorem mirrors_decoder {count : Nat} {sets : List ShortTermSet}
    (chain : ShortTermSet.Chain count sets) (count_le : count ≤ 64) (index total : Nat) :
    Mirrors ShortTermSet.arrays (decoder fault (sets.map ShortTermSet.arrays) index total)
      (ShortTermSet.decoder sets index total) := by
  refine Mirrors.within (Mirrors.behind fun predicted => ?_)
  split
  · refine Mirrors.behind fun distanceMinus1 => ?_
    rw [source?_map]
    cases source?_eq : ShortTermSet.source? sets index distanceMinus1 with
    | none => exact Mirrors.abort _
    | some source =>
        refine Mirrors.behind fun negative => ?_
        refine Mirrors.behind_yields ShortTermSet.yields_distanceDecoder fun distance isDistance => ?_
        obtain ⟨minus1, distance_le, rfl⟩ := isDistance
        have shift_le : (if negative then -((minus1 + 1 : Nat) : Int) else (minus1 + 1 : Nat)).natAbs ≤
            ShortTermSet.maxDistance := by
          simp only [ShortTermSet.maxDistance]
          split
          · omega
          · omega
        have bound_le : ShortTermSet.deltaBound count + ShortTermSet.maxDistance < numberLimit := by
          rw [← ShortTermSet.deltaBound_succ]
          exact deltaBound_lt (Nat.succ_le_succ count_le)
        have ordered := chain.ordered source (ShortTermSet.mem_of_source? source?_eq)
        rw [guarded_eq (by omega), Decoder.monadBind_eq, Decoder.done_bind]
        exact mirrors_predictedFrom ordered
          (Nat.lt_of_le_of_lt (Nat.add_le_add_left shift_le _) bound_le)
  · exact mirrors_explicitDecoder

/-- The loops over the sets of a sequence stay in range. -/
theorem mirrors_sequenceDecoder {total : Nat} (total_le : total ≤ 64) :
    Mirrors (List.map ShortTermSet.arrays) (sequenceDecoder fault total)
      (ShortTermSet.sequenceDecoder total) := by
  refine Mirrors.foldFrom ShortTermSet.Chain []
    (fun _ _ _ chain => chain.yields_next total) (fun index sets isIndex chain => ?_)
    ShortTermSet.Chain.nil
  refine Mirrors.bind (mirrors_decoder chain (by omega) index total) (Yields.trivial _)
    fun set _ => ?_
  have appended : sets.map ShortTermSet.arrays ++ [set.arrays] =
      (sets ++ [set]).map ShortTermSet.arrays := by
    rw [List.map_append, List.map_singleton]
  rw [appended]
  exact Mirrors.done (sets ++ [set])

end SetArrays

/-! ## Sets that are decoded -/

/-- The arrays of a set are in order: on each side the pictures are ever further away, each has its
flag, there are at most 16, the used ones are among them, and no distance is out of range. -/
structure SetArrays.WellFormed (set : SetArrays) : Prop where
  before_decreasing : set.before.deltas.Pairwise (· > ·)
  before_negative : ∀ delta ∈ set.before.deltas, delta < 0
  after_increasing : set.after.deltas.Pairwise (· < ·)
  after_positive : ∀ delta ∈ set.after.deltas, 0 < delta
  before_length : set.before.used.length = set.before.deltas.length
  after_length : set.after.used.length = set.after.deltas.length
  size_le : set.size ≤ 16
  used_le : set.before.used.count true + set.after.used.count true ≤ set.size
  delta_lt : ∀ delta ∈ set.before.deltas ++ set.after.deltas, delta.natAbs < SetArrays.numberLimit

theorem ShortTermSet.Ordered.arrays_wellFormed {set : ShortTermSet} {bound : Nat}
    (ordered : set.Ordered bound) (bound_lt : bound < SetArrays.numberLimit) :
    set.arrays.WellFormed := by
  have increasing := ordered.increasing
  rw [line, List.pairwise_append, List.pairwise_reverse, List.pairwise_cons] at increasing
  rcases increasing with ⟨before, ⟨positive, after⟩, across⟩
  constructor
  · exact before
  · exact fun delta isBefore => across delta (List.mem_reverse.mpr isBefore) 0 List.mem_cons_self
  · exact after
  · exact positive
  · rw [arrays_before, PictureArrays.ofList, List.length_map, List.length_map]
  · rw [arrays_after, PictureArrays.ofList, List.length_map, List.length_map]
  · exact SetArrays.size_arrays set ▸ ordered.size_le
  · have beforeCount := List.count_le_length (a := true) (l := set.arrays.before.used)
    have afterCount := List.count_le_length (a := true) (l := set.arrays.after.used)
    simp only [arrays_before, arrays_after, PictureArrays.ofList, SetArrays.size, List.length_map]
      at beforeCount afterCount ⊢
    exact Nat.add_le_add beforeCount afterCount
  · intro delta isDelta
    refine Nat.lt_of_le_of_lt (ordered.delta_le delta ?_) bound_lt
    rw [line, List.mem_append, List.mem_reverse, List.mem_cons]
    rcases List.mem_append.mp isDelta with isBefore | isAfter
    · exact Or.inl isBefore
    · exact Or.inr (Or.inr isAfter)

/-- The sequence parameter sets of a table were decoded, at least up to their extensions. -/
def DecodedTable (sequences : IdTable SequenceParameterSet) : Prop :=
  ∀ id set, sequences.get? id = some set →
    ∃ unit, Interruption.keepDecoded (SequenceParameterSet.ofUnit unit) = .ok set

theorem DecodedTable.shortTermChained {sequences : IdTable SequenceParameterSet}
    (isDecoded : DecodedTable sequences) : ShortTermChainedTable sequences := by
  intro id set isListed
  obtain ⟨unit, unitDecoded⟩ := isDecoded id set isListed
  exact SequenceParameterSet.shortTermChained_of_keepDecoded unitDecoded

/-- Every short-term set that is decoded is in order, whether a sequence parameter set lists it or a
slice codes it, however long the chain of sets that it is predicted from. The loops over its arrays
give the same sets, whatever the fault that they end with where a place or a number is out of
range. -/
theorem shortTermSets_wellFormed :
    (∀ unit sequenceSet,
      Interruption.keepDecoded (SequenceParameterSet.ofUnit unit) = .ok sequenceSet →
        sequenceSet.shortTermSets.length ≤ 64 ∧
          (∀ set ∈ sequenceSet.shortTermSets, set.arrays.WellFormed) ∧
          ∀ fault index total,
            Mirrors ShortTermSet.arrays
              (SetArrays.decoder fault (sequenceSet.shortTermSets.map (·.arrays)) index total)
              (ShortTermSet.decoder sequenceSet.shortTermSets index total)) ∧
      (∀ fault,
        Mirrors (List.map ShortTermSet.arrays)
          ((SequenceParameterSet.bounded "num_short_term_ref_pic_sets" 64).bind
            (SetArrays.sequenceDecoder fault))
          ((SequenceParameterSet.bounded "num_short_term_ref_pic_sets" 64).bind
            ShortTermSet.sequenceDecoder)) ∧
      ∀ sequences pictures unit segment, DecodedTable sequences →
        SliceSegment.ofUnit sequences pictures unit = .ok segment →
        ∀ set sizeInBits, segment.header.fields.kept.shortTerm = .own set sizeInBits →
          set.arrays.WellFormed := by
  refine ⟨fun unit sequenceSet isDecoded => ?_, fun fault => ?_, ?_⟩
  · rcases SequenceParameterSet.shortTermChained_of_keepDecoded isDecoded with ⟨length_le, chain⟩
    refine ⟨length_le, fun set isListed => ?_, fun fault index total => ?_⟩
    · exact (chain.ordered set isListed).arrays_wellFormed
        (SetArrays.deltaBound_lt (Nat.le_succ_of_le length_le))
    · exact SetArrays.mirrors_decoder chain length_le index total
  · exact Mirrors.behind_yields Yields.boundedUnsigned fun _ inRange =>
      SetArrays.mirrors_sequenceDecoder inRange
  · intro sequences pictures unit segment isDecoded segmentDecoded set sizeInBits isOwn
    have ordered := SliceSegment.ownOrdered_of_ofUnit isDecoded.shortTermChained segmentDecoded
    exact (ordered set sizeInBits isOwn).arrays_wellFormed (SetArrays.deltaBound_lt (Nat.le_refl 65))

/-! ### A chain and a slice behind it -/

/-- A sequence parameter set with an explicit short-term set and one that is predicted from it. -/
def chainUnit : List UInt8 :=
  [0x42, 0x01, 0x01, 0x01, 0x60, 0x00, 0x00, 0x03, 0x00, 0x90, 0x00, 0x00, 0x03, 0x00, 0x00, 0x03,
    0x00, 0x5d, 0xa0, 0x20, 0x81, 0x05, 0x96, 0x5e, 0xa4, 0xc1, 0xb5, 0xab, 0xea, 0xe0, 0x80]

/-- The table with that sequence parameter set. -/
def chainSequences : IdTable SequenceParameterSet :=
  SliceSegment.tableOf (·.id) (SequenceParameterSet.ofUnit chainUnit)

/-- A picture parameter set that refers to it. -/
def chainPictures : IdTable PictureParameterSet :=
  SliceSegment.tableOf (·.id) <| PictureParameterSet.ofUnit [0x44, 0x01, 0xc0, 0x71, 0x80, 0x12]

/-- A slice whose own set is predicted from the first one of the sequence. -/
def chainSlice : List UInt8 :=
  [0x02, 0x01, 0xd8, 0x2a, 0x84, 0xce]

/-- The set of a table with one set is the one that is decoded. -/
theorem SliceSegment.keepDecoded_of_tableOf {α : Type} {id : α → Nat}
    {result : Except (Interruption α) α} {key : Nat} {set : α}
    (isListed : (tableOf id result).get? key = some set) :
    Interruption.keepDecoded result = .ok set := by
  cases result with
  | error _ => cases isListed
  | ok decoded =>
      rw [tableOf, IdTable.get?_insert] at isListed
      split at isListed
      · cases isListed
        rfl
      · cases isListed

theorem decodedTable_chainSequences : DecodedTable chainSequences :=
  fun _ _ isListed => ⟨chainUnit, SliceSegment.keepDecoded_of_tableOf isListed⟩

/-- Both sets of the sequence and the one of the slice are in order. -/
theorem shortTermSets_wellFormed_chain :
    ∃ sequenceSet segment set sizeInBits,
      Interruption.keepDecoded (SequenceParameterSet.ofUnit chainUnit) = .ok sequenceSet ∧
        sequenceSet.shortTermSets.length = 2 ∧
        (∀ set ∈ sequenceSet.shortTermSets, set.arrays.WellFormed) ∧
        SliceSegment.ofUnit chainSequences chainPictures chainSlice = .ok segment ∧
        segment.header.fields.kept.shortTerm = .own set sizeInBits ∧
        set.prediction = some { distanceMinus1 := 1, shift := 4 } ∧ set.arrays.WellFormed := by
  have sequenceAccepted :
      (Interruption.keepDecoded (SequenceParameterSet.ofUnit chainUnit)).toOption.map
        (·.shortTermSets.length) = some 2 := by
    decide +kernel
  have sliceAccepted :
      (SliceSegment.ofUnit chainSequences chainPictures chainSlice).toOption.map
          (·.header.fields.kept.shortTerm) =
        some (.own ⟨some ⟨1, 4⟩, [], [⟨1, true⟩, ⟨3, true⟩, ⟨4, true⟩]⟩ 15) := by
    decide +kernel
  obtain ⟨ofSequence, -, ofSlice⟩ := shortTermSets_wellFormed
  cases sequenceDecoded : Interruption.keepDecoded (SequenceParameterSet.ofUnit chainUnit) with
  | error error =>
      rw [sequenceDecoded] at sequenceAccepted
      cases sequenceAccepted
  | ok sequenceSet =>
      rw [sequenceDecoded] at sequenceAccepted
      cases sliceDecoded : SliceSegment.ofUnit chainSequences chainPictures chainSlice with
      | error error =>
          rw [sliceDecoded] at sliceAccepted
          cases sliceAccepted
      | ok segment =>
          rw [sliceDecoded] at sliceAccepted
          have isOwn := Option.some.inj sliceAccepted
          have wellFormed := ofSlice chainSequences chainPictures chainSlice segment
            decodedTable_chainSequences sliceDecoded _ _ isOwn
          exact ⟨sequenceSet, segment, _, _, rfl, Option.some.inj sequenceAccepted,
            (ofSequence chainUnit sequenceSet sequenceDecoded).2.1, rfl, isOwn, rfl, wellFormed⟩

end CodedVideo.Hevc
