import CodedVideo.Proofs.Avc.Confinement
import CodedVideo.Proofs.Avc.PictureReadBack
import CodedVideo.Proofs.Decoder.Classifies
import CodedVideo.Proofs.IdTable

/-!
# What AVC picture parameter sets see of sequence parameter sets

A picture parameter set names a sequence parameter set, which is looked up in a table only behind
the flag that announces scaling lists. What is decoded up to that flag knows no table. Behind it a
table shows whether the named set is there and whether its format is 4:4:4, and nothing else: tables
that show the same lead to the same result, and a unit is decoded alike under all tables if it is
decoded without any. A set is reported as absent exactly where the flag was read as set and the
table does not have the set that the unit names.

Main statement: `PictureParameterSet.ofUnit_table`.
-/

namespace CodedVideo.Avc

open Decoder

/-- What a table shows of a sequence parameter set: nothing if it is not there, and otherwise
whether its format is 4:4:4. -/
def seenIn (sequences : IdTable SequenceParameterSet) (id : Nat) : Option Bool :=
  (sequences.get? id).map fun sequenceSet => sequenceSet.format.chroma == 3

namespace PictureParameterSet

/-! ## Up to the flag -/

/-- The header of a unit, which must name a picture parameter set. -/
def unitHeader : Decoder Unit := do
  let header ← locatedAt structureName 0 NalHeader.decoder
  require (header.unitType == .pps) (.wrongUnitType structureName header.unitType.code)

/-- The identifiers of a set and of the sequence parameter set that it names. -/
def idsDecoder : Decoder (Nat × Nat) := do
  let id ← unsigned
  let sequenceId ← unsigned
  return (id, sequenceId)

/-- The flags that open transform settings: for blocks of 8x8 samples and for scaling lists. -/
def transformFlags : Decoder (Bool × Bool) := do
  let transform8x8 ← flag
  let listed ← flag
  return (transform8x8, listed)

/-- The fields behind the identifiers, up to the flag for scaling lists. The set has the settings
that are inferred where none are coded. -/
def settingsDecoder (id sequenceId : Nat) :
    Decoder (PictureParameterSet × Option (Bool × Bool)) := do
  let arithmeticCoding ← flag
  let bottomFieldOrderPresent ← flag
  let sliceGroups ← SliceGroups.decoder
  let defaultActiveList0Minus1 ← unsigned
  let defaultActiveList1Minus1 ← unsigned
  let weightedPrediction ← flag
  let weightedBipredictionIdc ← bits 2
  let initialQpMinus26 ← signed
  let initialQsMinus26 ← signed
  let chromaQpOffset ← signed
  let deblockingControlPresent ← flag
  let constrainedIntraPrediction ← flag
  let redundantPictureCountPresent ← flag
  let flags ← optional (← hasMoreData) transformFlags
  return ({
    id, sequenceId, arithmeticCoding, bottomFieldOrderPresent, sliceGroups,
    defaultActiveList0Minus1, defaultActiveList1Minus1, weightedPrediction,
    weightedBipredictionIdc, initialQpMinus26, initialQsMinus26, chromaQpOffset,
    deblockingControlPresent, constrainedIntraPrediction, redundantPictureCountPresent
    transform := .inferred chromaQpOffset }, flags)

/-- All fields up to the flag for scaling lists. -/
def opening : Decoder (PictureParameterSet × Option (Bool × Bool)) :=
  idsDecoder.bind fun ids => settingsDecoder ids.1 ids.2

/-- The identifier of the sequence parameter set that a unit names, if it is decoded that far. -/
def namedSequence? (unit : List UInt8) : Option Nat :=
  ((unitHeader.bind fun _ => located structureName idsDecoder).decodeUnit unit).toOption.map (·.2)

/-- What stands in a unit up to the flag for scaling lists. -/
def openingUnit : Decoder (PictureParameterSet × Option (Bool × Bool)) :=
  unitHeader.bind fun _ => located structureName opening

/-- The identifier of the sequence parameter set on which scaling lists depend, if the flag for them
is decoded as set. -/
def scalingReference? (unit : List UInt8) : Option Nat :=
  match openingUnit.decodeUnit unit with
  | .ok (set, some (_, true)) => some set.sequenceId
  | _ => none

/-! ## Behind the flag -/

/-- Scaling lists, whose number depends on what is seen of the sequence parameter set. -/
def listsDecoder (seen : Option Bool) (sequenceId : Nat) (transform8x8 : Bool) :
    Decoder (List ScalingList) :=
  match seen with
  | none => abort (.missingReference "PPS" "SPS" sequenceId)
  | some isFull => ScalingList.slots (6 + if transform8x8 then if isFull then 6 else 2 else 0)

/-- What follows the flag for scaling lists. -/
def closing (seen : Option Bool) :
    PictureParameterSet × Option (Bool × Bool) → Decoder PictureParameterSet
  | (set, none) => done set
  | (set, some (transform8x8, listed)) => do
      let scalingLists ← optional listed (listsDecoder seen set.sequenceId transform8x8)
      let secondChromaQpOffset ← signed
      return { set with transform := { transform8x8, scalingLists, secondChromaQpOffset } }

/-- What follows the flag for scaling lists up to the end of the unit. -/
def closingUnit (seen : Option Bool) (opened : PictureParameterSet × Option (Bool × Bool)) :
    Decoder PictureParameterSet := do
  let set ← located structureName (closing seen opened)
  located structureName trailingBits
  return set

variable {sequences : IdTable SequenceParameterSet} {unit : List UInt8}

theorem scalingListDecoder_eq (sequences : IdTable SequenceParameterSet) (sequenceId : Nat)
    (transform8x8 : Bool) :
    TransformSettings.scalingListDecoder sequences sequenceId transform8x8 =
      listsDecoder (seenIn sequences sequenceId) sequenceId transform8x8 := by
  unfold TransformSettings.scalingListDecoder seenIn
  cases sequences.get? sequenceId with
  | none => rfl
  | some sequenceSet =>
      simp only [Option.map_some, listsDecoder, TransformSettings.scalingListCount, beq_iff_eq]

/-- Transform settings are the flags that open them and what follows these. -/
theorem transform_bind_eq (sequences : IdTable SequenceParameterSet) (isCoded : Bool)
    (set : PictureParameterSet) :
    ((whenElse isCoded set.transform (TransformSettings.decoder sequences set.sequenceId)).bind
        fun transform => done { set with transform }) =
      (Decoder.optional isCoded transformFlags).bind fun flags =>
        closing (seenIn sequences set.sequenceId) (set, flags) := by
  cases isCoded with
  | false => rfl
  | true =>
      simp only [whenElse, Decoder.optional, TransformSettings.decoder, transformFlags, closing,
        scalingListDecoder_eq, monadBind_eq, bind_assoc, if_true, pure, done_bind]

/-- The fields are those up to the flag and those behind it, and only these know the table. -/
theorem fields_eq (sequences : IdTable SequenceParameterSet) :
    fields sequences =
      opening.bind fun opened => closing (seenIn sequences opened.1.sequenceId) opened := by
  simp only [fields, opening, idsDecoder, settingsDecoder, monadBind_eq, bind_assoc, done_bind,
    pure]
  iterate 16 refine congrArg (Decoder.bind _) (funext fun _ => ?_)
  exact transform_bind_eq sequences _ ⟨_, _, _, _, _, _, _, _, _, _, _, _, _, _, _, .inferred _⟩

/-- A unit is run up to the flag and on from there, and only behind it a table is known. -/
theorem run_decoder_eq (sequences : IdTable SequenceParameterSet) {σ : Type} [BitSource σ]
    (reader : Reader σ) :
    (decoder sequences).run reader =
      (openingUnit.bind fun opened =>
        closingUnit (seenIn sequences opened.1.sequenceId) opened).run reader := by
  have decoder_eq : decoder sequences =
      unitHeader.bind fun _ => (located structureName (fields sequences)).bind fun set =>
        (located structureName trailingBits).bind fun _ => done set := by
    simp only [decoder, unitHeader, monadBind_eq, bind_assoc]
    rfl
  rw [decoder_eq, openingUnit, bind_assoc, run_bind, run_bind unitHeader]
  rcases unitHeader.run reader with ⟨error | _, rest⟩
  · rfl
  · simp only
    rw [run_bind, fields_eq, run_located_bind, ← run_bind, bind_assoc]
    rfl

theorem ofUnit_eq (sequences : IdTable SequenceParameterSet) (unit : List UInt8) :
    ofUnit sequences unit =
      match openingUnit.run (EscapedReader.ofUnit unit) with
      | (.ok opened, rest) =>
          ((closingUnit (seenIn sequences opened.1.sequenceId) opened).run rest).1
      | (.error error, _) => .error error := by
  rw [ofUnit, decodeUnit, run_decoder_eq, run_bind]
  rcases openingUnit.run (EscapedReader.ofUnit unit) with ⟨error | opened, rest⟩
  · rfl
  · rfl

/-! ## What is named -/

theorem yields_sequenceId (id sequenceId : Nat) :
    Yields (settingsDecoder id sequenceId) (·.1.sequenceId = sequenceId) := by
  iterate 15 refine Yields.behind fun _ => ?_
  exact Yields.done rfl

section

variable {opened : PictureParameterSet × Option (Bool × Bool)} {rest : EscapedReader}
  (isOpened : openingUnit.run (EscapedReader.ofUnit unit) = (.ok opened, rest))

include isOpened

/-- A unit that is decoded up to the flag names the set whose identifier it has read. -/
theorem namedSequence?_of_openingUnit : namedSequence? unit = some opened.1.sequenceId := by
  obtain ⟨_, behindHeader, header_eq, located_eq⟩ := ok_of_run_bind isOpened
  obtain ⟨ids, behindIds, ids_eq, settings_eq⟩ := ok_of_run_bind (ok_of_run_within located_eq)
  have sequenceId_eq := (yields_sequenceId ids.1 ids.2).of_run _ _ _ settings_eq
  have decoded : (unitHeader.bind fun _ => located structureName idsDecoder).decodeUnit unit =
      .ok ids := by
    rw [decodeUnit, run_bind, header_eq]
    simp only [located, run, ids_eq]
  rw [namedSequence?, decoded, sequenceId_eq]
  rfl

/-- The set that scaling lists depend on is the one that the unit names, where they are there. -/
theorem scalingReference?_eq_some_iff {id : Nat} :
    scalingReference? unit = some id ↔
      (∃ transform8x8, opened.2 = some (transform8x8, true)) ∧ opened.1.sequenceId = id := by
  rw [scalingReference?, decodeUnit, isOpened]
  rcases opened with ⟨set, _ | ⟨transform8x8, _ | _⟩⟩
  · simp
  · simp
  · simp

end

/-! ## What is seen -/

variable {seen other : Option Bool} {opened : PictureParameterSet × Option (Bool × Bool)}

/-- Without scaling lists nothing depends on a table. -/
theorem closingUnit_eq (notListed : ∀ transform8x8, opened.2 ≠ some (transform8x8, true)) :
    closingUnit seen opened = closingUnit other opened := by
  rcases opened with ⟨set, _ | ⟨transform8x8, _ | _⟩⟩
  · rfl
  · rfl
  · exact absurd rfl (notListed transform8x8)

instance confined_settingsDecoder {start : Nat} (id sequenceId : Nat) :
    Confined start False (settingsDecoder id sequenceId) := by
  unfold settingsDecoder transformFlags SliceGroups.decoder
  infer_instance

instance confined_openingUnit {start : Nat} : Confined start False openingUnit := by
  unfold openingUnit unitHeader opening idsDecoder
  infer_instance

/-- Where the set that scaling lists depend on is seen, none is reported as absent. -/
theorem confined_closingUnit {start : Nat}
    (isSeen : ∀ transform8x8, opened.2 = some (transform8x8, true) → seen ≠ none) :
    Confined start False (closingUnit seen opened) := by
  have confined_closing : Confined start False (closing seen opened) := by
    rcases opened with ⟨set, _ | ⟨transform8x8, _ | _⟩⟩
    · exact Confined.done set
    · have noLists : Confined start False
          (Decoder.optional false (listsDecoder seen set.sequenceId transform8x8)) :=
        Confined.done none
      unfold closing
      infer_instance
    · cases seen with
      | none => exact absurd rfl (isSeen transform8x8 rfl)
      | some isFull =>
          unfold closing listsDecoder
          infer_instance
  unfold closingUnit
  infer_instance

/-- Behind the flag a set is reported as absent exactly if scaling lists depend on it and it is not
seen. -/
theorem closingUnit_missing_iff {reader : EscapedReader} (stands : reader.source.StandsIn unit 0)
    {name kind : String} {id : Nat} :
    ((closingUnit seen opened).run reader).1 = .error (.missingReference name kind id) ↔
      (name = "PPS" ∧ kind = "SPS") ∧
        (∃ transform8x8, opened.2 = some (transform8x8, true)) ∧
          opened.1.sequenceId = id ∧ seen = none := by
  by_cases isAbsent : seen = none ∧ ∃ transform8x8, opened.2 = some (transform8x8, true)
  · rcases opened with ⟨set, flags⟩
    rcases isAbsent with ⟨rfl, transform8x8, rfl⟩
    have run_eq : ((closingUnit none (set, some (transform8x8, true))).run reader).1 =
        .error (.missingReference "PPS" "SPS" set.sequenceId) := rfl
    rw [run_eq]
    constructor
    · rintro ⟨⟩
      exact ⟨⟨rfl, rfl⟩, ⟨transform8x8, rfl⟩, rfl, rfl⟩
    · rintro ⟨⟨rfl, rfl⟩, _, rfl, _⟩
      rfl
  · have confined : Confined 0 False (closingUnit seen opened) :=
      confined_closingUnit fun transform8x8 isListed isNone =>
        isAbsent ⟨isNone, transform8x8, isListed⟩
    constructor
    · intro failed
      exact ((confined.isWithin unit reader _ stands failed).refers rfl).elim
    · rintro ⟨_, isListed, _, isNone⟩
      exact absurd ⟨isNone, isListed⟩ isAbsent

theorem seenIn_eq_none_iff {id : Nat} : seenIn sequences id = none ↔ sequences.get? id = none :=
  Option.map_eq_none_iff

theorem yields_closingUnit :
    Yields (closingUnit seen opened) (·.sequenceId = opened.1.sequenceId) := by
  have closingYields : Yields (closing seen opened) (·.sequenceId = opened.1.sequenceId) := by
    rcases opened with ⟨set, _ | ⟨transform8x8, listed⟩⟩
    · exact Yields.done rfl
    · exact Yields.behind fun _ => Yields.behind fun _ => Yields.done rfl
  refine Yields.bind (Yields.within closingYields) fun set sequenceId_eq => ?_
  exact Yields.behind fun _ => Yields.done sequenceId_eq

/-! ## Tables -/

/-- A unit that is decoded names the set that stands in the result. -/
theorem namedSequence?_of_ofUnit {set : PictureParameterSet}
    (isDecoded : ofUnit sequences unit = .ok set) :
    namedSequence? unit = some set.sequenceId := by
  rw [ofUnit_eq] at isDecoded
  rcases run_eq : openingUnit.run (EscapedReader.ofUnit unit) with ⟨error | opened, rest⟩
  · rw [run_eq] at isDecoded
    cases isDecoded
  · rw [run_eq] at isDecoded
    rw [namedSequence?_of_openingUnit run_eq]
    exact congrArg some (yields_closingUnit.of_run rest _ set (Prod.ext isDecoded rfl)).symm

/-- Tables that show the same of the named set lead to the same result. -/
theorem ofUnit_eq_of_seenIn_eq {first second : IdTable SequenceParameterSet}
    (agree : ∀ id, namedSequence? unit = some id → seenIn first id = seenIn second id) :
    ofUnit first unit = ofUnit second unit := by
  rw [ofUnit_eq, ofUnit_eq]
  rcases run_eq : openingUnit.run (EscapedReader.ofUnit unit) with ⟨error | opened, rest⟩
  · rfl
  · simp only
    rw [agree _ (namedSequence?_of_openingUnit run_eq)]

/-- A set is reported as absent exactly where scaling lists depend on it and the table does not have
it. -/
theorem missing_of_ofUnit_iff {name kind : String} {id : Nat} :
    ofUnit sequences unit = .error (.missingReference name kind id) ↔
      (name = "PPS" ∧ kind = "SPS") ∧ scalingReference? unit = some id ∧
        namedSequence? unit = some id ∧ sequences.get? id = none := by
  have stands := EscapedSource.standsIn_ofUnit unit
  rw [ofUnit_eq]
  rcases run_eq : openingUnit.run (EscapedReader.ofUnit unit) with ⟨error | opened, rest⟩
  · constructor
    · rintro ⟨⟩
      have isWithin := confined_openingUnit.isWithin unit _ _ stands (congrArg Prod.fst run_eq)
      exact (isWithin.refers rfl).elim
    · rintro ⟨_, isListed, _⟩
      rw [scalingReference?, decodeUnit, run_eq] at isListed
      cases isListed
  · simp only
    rw [closingUnit_missing_iff (stands.of_run run_eq), scalingReference?_eq_some_iff run_eq,
      namedSequence?_of_openingUnit run_eq, seenIn_eq_none_iff]
    constructor
    · rintro ⟨names, isListed, rfl, isAbsent⟩
      exact ⟨names, ⟨isListed, rfl⟩, rfl, isAbsent⟩
    · rintro ⟨names, ⟨isListed, rfl⟩, _, isAbsent⟩
      exact ⟨names, isListed, rfl, isAbsent⟩

/-- Where no set is missed without a table, no table changes the result. -/
theorem ofUnit_eq_ofUnit_empty
    (notMissing : ∀ name kind id,
      ofUnit .empty unit ≠ .error (.missingReference name kind id))
    (sequences : IdTable SequenceParameterSet) : ofUnit sequences unit = ofUnit .empty unit := by
  rcases run_eq : openingUnit.run (EscapedReader.ofUnit unit) with ⟨error | opened, rest⟩
  · rw [ofUnit_eq, ofUnit_eq, run_eq]
  · have notListed (transform8x8 : Bool) : opened.2 ≠ some (transform8x8, true) := by
      intro isListed
      apply notMissing "PPS" "SPS" opened.1.sequenceId
      rw [missing_of_ofUnit_iff]
      exact ⟨⟨rfl, rfl⟩,
        (scalingReference?_eq_some_iff run_eq).mpr ⟨⟨transform8x8, isListed⟩, rfl⟩,
        namedSequence?_of_openingUnit run_eq, IdTable.get?_empty _⟩
    rw [ofUnit_eq, ofUnit_eq, run_eq]
    simp only
    rw [closingUnit_eq notListed]

/-- What a table of sequence parameter sets can change of the result of a unit: only what it shows of
the set that the unit names, nothing if no set is missed without a table, and a set is reported as
absent exactly where the flag for scaling lists was decoded as set, the unit names that set and the
table does not have it. -/
theorem ofUnit_table (unit : List UInt8) :
    (∀ first second : IdTable SequenceParameterSet,
        (∀ id, namedSequence? unit = some id → seenIn first id = seenIn second id) →
        ofUnit first unit = ofUnit second unit) ∧
      ((∀ name kind id, ofUnit .empty unit ≠ .error (.missingReference name kind id)) →
        ∀ sequences, ofUnit sequences unit = ofUnit .empty unit) ∧
      ∀ sequences name kind id,
        ofUnit sequences unit = .error (.missingReference name kind id) ↔
          (name = "PPS" ∧ kind = "SPS") ∧ scalingReference? unit = some id ∧
            namedSequence? unit = some id ∧ sequences.get? id = none :=
  ⟨fun _ _ => ofUnit_eq_of_seenIn_eq, ofUnit_eq_ofUnit_empty, fun _ _ _ _ => missing_of_ofUnit_iff⟩

/-- A unit with scaling lists under two tables and under none, and a unit without them under any
table. -/
theorem ofUnit_table_samples :
    let listedUnit : List UInt8 := [0x68, 0x42, 0x2e, 0x3c, 0x40, 0xc0]
    let plainUnit : List UInt8 := [0x68, 0xe8, 0x43, 0x32, 0xc8, 0xb0]
    let first := scalingSequences.insert 7 SequenceParameterSet.fullSample
    let second := IdTable.empty.insert 7 { SequenceParameterSet.fullSample with levelIdc := 10 }
    (namedSequence? listedUnit = some 7 ∧ seenIn first 7 = seenIn second 7 ∧
        ofUnit first listedUnit = ofUnit second listedUnit) ∧
      ((ofUnit .empty plainUnit).toOption.map (·.sequenceId) = some 0 ∧
        ∀ sequences, ofUnit sequences plainUnit = ofUnit .empty plainUnit) ∧
      ofUnit .empty listedUnit = .error (.missingReference "PPS" "SPS" 7) := by
  intro listedUnit plainUnit first second
  have named : namedSequence? listedUnit = some 7 := by decide +kernel
  have seen : seenIn first 7 = seenIn second 7 := by decide +kernel
  have decoded : (ofUnit .empty plainUnit).toOption.map (·.sequenceId) = some 0 := by
    decide +kernel
  refine ⟨⟨named, seen, ?_⟩, ⟨decoded, ?_⟩, ?_⟩
  · apply (ofUnit_table listedUnit).1
    rw [named]
    rintro id ⟨⟩
    exact seen
  · apply (ofUnit_table plainUnit).2.1
    intro name kind id isMissing
    rw [isMissing] at decoded
    cases decoded
  · rw [(ofUnit_table listedUnit).2.2]
    exact ⟨⟨rfl, rfl⟩, by decide +kernel, named, rfl⟩

end PictureParameterSet

end CodedVideo.Avc
