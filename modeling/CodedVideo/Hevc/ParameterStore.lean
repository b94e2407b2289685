import CodedVideo.Hevc.SliceHeader
import CodedVideo.Hevc.VideoParameterSet

/-!
# Stores of HEVC parameter sets

A store keeps the latest parameter set for each identifier that a stream has shown. A set whose
extensions are not decoded is kept as far as it was. The limits of a store bound the number of
identifiers; a set for an identifier that is known already is always taken.
-/

namespace CodedVideo.Hevc

/-- The greatest numbers of parameter sets in a store. -/
structure StoreLimits where
  videos : Nat := 16
  sequences : Nat := 16
  pictures : Nat := 64
deriving DecidableEq, Repr

/-- The parameter sets of a stream. -/
structure ParameterStore where
  limits : StoreLimits := {}
  videos : IdTable VideoParameterSet := .empty
  sequences : IdTable SequenceParameterSet := .empty
  pictures : IdTable PictureParameterSet := .empty
  /-- The identifier of the sequence parameter set that was taken last. -/
  activeSequenceId : Option Nat := none
  /-- The identifier of the picture parameter set that was taken last. -/
  activePictureId : Option Nat := none

namespace ParameterStore

/-- Takes a video parameter set, and gives its identifier. -/
def addVideo (store : ParameterStore) (unit : List UInt8) :
    Except Error (Nat × ParameterStore) := do
  let set ← VideoParameterSet.ofUnit unit
  if store.videos.hasRoomFor set.id store.limits.videos then
    return (set.id, { store with videos := store.videos.insert set.id set })
  else throw (.resourceExhausted "VPS count limit exceeded")

/-- Takes a sequence parameter set, and gives its identifier. -/
def addSequence (store : ParameterStore) (unit : List UInt8) :
    Except Error (Nat × ParameterStore) := do
  let set ← Interruption.keepDecoded (SequenceParameterSet.ofUnit unit)
  if store.sequences.hasRoomFor set.id store.limits.sequences then
    return (set.id, { store with
      sequences := store.sequences.insert set.id set
      activeSequenceId := some set.id })
  else throw (.resourceExhausted "SPS count limit exceeded")

/-- Takes a picture parameter set, and gives its identifier. -/
def addPicture (store : ParameterStore) (unit : List UInt8) :
    Except Error (Nat × ParameterStore) := do
  let set ← Interruption.keepDecoded (PictureParameterSet.ofUnit unit)
  if store.pictures.hasRoomFor set.id store.limits.pictures then
    return (set.id, { store with
      pictures := store.pictures.insert set.id set
      activePictureId := some set.id })
  else throw (.resourceExhausted "PPS count limit exceeded")

/-- Takes a unit if it is a parameter set, and gives its type; other units are ignored. -/
def addUnit (store : ParameterStore) (unit : List UInt8) :
    Except Error (NalUnitType × ParameterStore) := do
  match NalUnitType.ofUnit? unit with
  | none => throw (.malformed "NAL unit header" "empty NAL unit")
  | some .vps => return (.vps, (← store.addVideo unit).2)
  | some .sps => return (.sps, (← store.addSequence unit).2)
  | some .pps => return (.pps, (← store.addPicture unit).2)
  | some unitType => return (unitType, store)

/-- Decodes a slice segment header against the stored parameter sets. -/
def sliceSegment (store : ParameterStore) (unit : List UInt8) : Except Error SliceSegment :=
  SliceSegment.ofUnit store.sequences store.pictures unit

/-- The sequence parameter set that was taken last. -/
def activeSequence? (store : ParameterStore) : Option SequenceParameterSet :=
  store.activeSequenceId.bind store.sequences.get?

/-- The picture parameter set that was taken last. -/
def activePicture? (store : ParameterStore) : Option PictureParameterSet :=
  store.activePictureId.bind store.pictures.get?

/-- Forgets every parameter set. -/
def clear (store : ParameterStore) : ParameterStore :=
  { limits := store.limits }

end ParameterStore

end CodedVideo.Hevc
