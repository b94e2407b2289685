import CodedVideo.Avc.SliceHeader

/-!
# Stores of AVC parameter sets

A store keeps the latest parameter set for each identifier that a stream has shown. Its limits
bound the number of identifiers; a set for an identifier that is known already is always taken.
-/

namespace CodedVideo.Avc

/-- The greatest numbers of parameter sets in a store. -/
structure StoreLimits where
  sequences : Nat := 32
  pictures : Nat := 256
deriving DecidableEq, Repr

/-- The parameter sets of a stream. -/
structure ParameterStore where
  limits : StoreLimits := {}
  sequences : IdTable SequenceParameterSet := .empty
  pictures : IdTable PictureParameterSet := .empty
  /-- The identifier of the sequence parameter set that was taken last. -/
  activeSequenceId : Option Nat := none
  /-- The identifier of the picture parameter set that was taken last. -/
  activePictureId : Option Nat := none

namespace ParameterStore

/-- Takes a sequence parameter set, and gives its identifier. -/
def addSequence (store : ParameterStore) (unit : List UInt8) :
    Except Error (Nat × ParameterStore) := do
  let set ← SequenceParameterSet.ofUnit unit
  if store.sequences.hasRoomFor set.id store.limits.sequences then
    return (set.id, { store with
      sequences := store.sequences.insert set.id set
      activeSequenceId := some set.id })
  else throw (.resourceExhausted "SPS count limit exceeded")

/-- Takes a picture parameter set, and gives its identifier. -/
def addPicture (store : ParameterStore) (unit : List UInt8) :
    Except Error (Nat × ParameterStore) := do
  let set ← PictureParameterSet.ofUnit store.sequences unit
  if store.pictures.hasRoomFor set.id store.limits.pictures then
    return (set.id, { store with
      pictures := store.pictures.insert set.id set
      activePictureId := some set.id })
  else throw (.resourceExhausted "PPS count limit exceeded")

/-- Takes a unit if it is a parameter set, and gives its type; other units are ignored. -/
def addUnit (store : ParameterStore) (unit : List UInt8) :
    Except Error (NalUnitType × ParameterStore) := do
  match NalUnitType.ofUnit? unit with
  | none => throw (.malformed "NAL unit header" "empty NAL unit")
  | some .sps => return (.sps, (← store.addSequence unit).2)
  | some .pps => return (.pps, (← store.addPicture unit).2)
  | some unitType => return (unitType, store)

/-- Decodes a slice header against the stored parameter sets. -/
def sliceHeader (store : ParameterStore) (unit : List UInt8) : Except Error SliceHeader :=
  SliceHeader.ofUnit store.sequences store.pictures unit

/-- The sequence parameter set that was taken last. -/
def activeSequence? (store : ParameterStore) : Option SequenceParameterSet :=
  store.activeSequenceId.bind store.sequences.get?

/-- The picture parameter set that was taken last. -/
def activePicture? (store : ParameterStore) : Option PictureParameterSet :=
  store.activePictureId.bind store.pictures.get?

/-- Forgets every parameter set. -/
def clear (store : ParameterStore) : ParameterStore :=
  { limits := store.limits }

end ParameterStore

end CodedVideo.Avc
