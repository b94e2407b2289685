import CodedVideo.Hevc.SliceHeader
import CodedVideo.Proofs.Decoder.Attributed
import CodedVideo.Proofs.SharedGrammar

/-!
# The grammar of HEVC slice segment headers

No part of a slice segment header is decoded by looking ahead, and each error names a structure.
-/

namespace CodedVideo.Hevc

open Decoder (Attributed Blind)

/-! ## The start of a segment -/

instance NalHeader.blind_decoder : Blind NalHeader.decoder := by
  rw [NalHeader.decoder]
  infer_instance

instance NalHeader.attributed_decoder : Attributed NalHeader.decoder := by
  rw [NalHeader.decoder]
  infer_instance

namespace SegmentStart

instance blind_findPictureSet (pictures : IdTable PictureParameterSet) (id : Nat) :
    Blind (findPictureSet pictures id) := by
  unfold findPictureSet
  split <;> infer_instance

instance blind_findSequenceSet (sequences : IdTable SequenceParameterSet) (id : Nat) :
    Blind (findSequenceSet sequences id) := by
  unfold findSequenceSet
  split <;> infer_instance

instance blind_addressDecoder (size : Nat) : Blind (addressDecoder size) := by
  rw [addressDecoder]
  infer_instance

instance blind_typeDecoder : Blind typeDecoder := by
  apply Blind.unsigned.sequence
  intro code
  split <;> infer_instance

instance blind_unitDecoder : Blind unitDecoder := by
  rw [unitDecoder]
  infer_instance

instance attributed_unitDecoder : Attributed unitDecoder := by
  rw [unitDecoder]
  infer_instance

instance blind_decoder (sequences : IdTable SequenceParameterSet)
    (pictures : IdTable PictureParameterSet) (unit : NalHeader) :
    Blind (decoder sequences pictures unit) := by
  rw [decoder]
  infer_instance

end SegmentStart

/-! ## Kept pictures -/

namespace ShortTermSet

instance blind_distanceDecoder : Blind distanceDecoder := by
  rw [distanceDecoder]
  infer_instance

instance blind_picturesAfter (sign : Int) (count : Nat) (last : Int)
    (pictures : List ReferencePicture) : Blind (picturesAfter sign count last pictures) := by
  induction count generalizing last pictures with
  | zero => exact Blind.done _
  | succ count inductionHypothesis =>
      rw [picturesAfter]
      infer_instance

instance blind_explicitDecoder : Blind explicitDecoder := by
  rw [explicitDecoder]
  infer_instance

instance blind_candidateDecoder (delta : Int) : Blind (candidateDecoder delta) := by
  rw [candidateDecoder]
  infer_instance

instance blind_predictedFrom (source : ShortTermSet) (prediction : SetPrediction) :
    Blind (predictedFrom source prediction) := by
  rw [predictedFrom]
  infer_instance

instance blind_predictedDecoder (sets : List ShortTermSet) (index total : Nat) :
    Blind (predictedDecoder sets index total) := by
  apply Blind.sequence inferInstance
  intro distanceMinus1
  split <;> infer_instance

instance blind_decoder (sets : List ShortTermSet) (index total : Nat) :
    Blind (decoder sets index total) := by
  rw [decoder, fields]
  infer_instance

end ShortTermSet

namespace ShortTermChoice

instance blind_ownDecoder (sets : List ShortTermSet) : Blind (ownDecoder sets) := by
  rw [ownDecoder]
  infer_instance

instance blind_ofSequenceDecoder (count : Nat) : Blind (ofSequenceDecoder count) := by
  rw [ofSequenceDecoder]
  infer_instance

instance blind_decoder (sets : List ShortTermSet) : Blind (decoder sets) := by
  rw [decoder]
  infer_instance

end ShortTermChoice

instance LongTermCandidate.blind_decoder (width : Nat) :
    Blind (LongTermCandidate.decoder width) := by
  rw [LongTermCandidate.decoder]
  infer_instance

namespace LongTermReference

instance blind_highBitsDecoder : Blind highBitsDecoder := by
  rw [highBitsDecoder]
  infer_instance

instance blind_chosenDecoder (candidates : List LongTermCandidate) :
    Blind (chosenDecoder candidates) := by
  apply (Blind.bits _).sequence
  intro index
  split <;> infer_instance

instance blind_codedDecoder (width : Nat) : Blind (codedDecoder width) := by
  rw [codedDecoder]
  infer_instance

instance blind_listDecoder (width : Nat) (candidates : List LongTermCandidate) :
    Blind (listDecoder width candidates) := by
  rw [listDecoder]
  infer_instance

end LongTermReference

instance KeptPictures.blind_decoder (sequenceSet : SequenceParameterSet) :
    Blind (KeptPictures.decoder sequenceSet) := by
  unfold KeptPictures.decoder
  cases sequenceSet.longTermCandidates <;> infer_instance

/-! ## Pictures in use -/

instance ActiveReferences.blind_decoder (pictureSet : PictureParameterSet) (bidirectional : Bool) :
    Blind (ActiveReferences.decoder pictureSet bidirectional) := by
  rw [ActiveReferences.decoder]
  infer_instance

namespace ListModification

instance blind_entriesDecoder (activeMinus1 width : Nat) :
    Blind (entriesDecoder activeMinus1 width) := by
  rw [entriesDecoder]
  infer_instance

instance blind_decoder (active : ActiveReferences) (usedCount : Nat) (bidirectional : Bool) :
    Blind (decoder active usedCount bidirectional) := by
  rw [decoder]
  infer_instance

end ListModification

instance CollocatedPicture.blind_decoder (active : ActiveReferences) (bidirectional : Bool) :
    Blind (CollocatedPicture.decoder active bidirectional) := by
  rw [CollocatedPicture.decoder]
  infer_instance

namespace WeightTable

instance blind_weightDecoder (present : Bool × Bool) : Blind (weightDecoder present) := by
  rw [weightDecoder]
  infer_instance

instance blind_listDecoder (chromaCoded : Bool) (count : Nat) :
    Blind (listDecoder chromaCoded count) := by
  rw [listDecoder]
  infer_instance

instance blind_decoder (chromaCoded bidirectional : Bool) (active : ActiveReferences) :
    Blind (decoder chromaCoded bidirectional active) := by
  rw [decoder]
  infer_instance

end WeightTable

instance InterFields.blind_decoder (referring : ReferringStart) (sliceType : SliceType)
    (kept : KeptPictures) : Blind (InterFields.decoder referring sliceType kept) := by
  rw [InterFields.decoder]
  infer_instance

/-! ## The whole header -/

namespace DeblockingFields

instance blind_ownDecoder (deblocking : DeblockingFields) : Blind (ownDecoder deblocking) := by
  rw [ownDecoder]
  infer_instance

instance blind_decoder (pictureSet : PictureParameterSet) : Blind (decoder pictureSet) := by
  rw [decoder]
  infer_instance

end DeblockingFields

instance SliceFields.blind_decoder (unitType : NalUnitType) (referring : ReferringStart)
    (sliceType : SliceType) : Blind (SliceFields.decoder unitType referring sliceType) := by
  rw [SliceFields.decoder]
  infer_instance

instance EntryPoints.blind_decoder (size : Nat) : Blind (EntryPoints.decoder size) := by
  rw [EntryPoints.decoder]
  infer_instance

namespace SliceHeader

instance blind_extensionDecoder : Blind extensionDecoder := by
  rw [extensionDecoder]
  infer_instance

instance blind_paddingDecoder : Blind paddingDecoder := by
  rw [paddingDecoder, zeroDecoder]
  infer_instance

instance blind_refuseExtensions (referring : ReferringStart) :
    Blind (refuseExtensions referring) := by
  rw [refuseExtensions]
  infer_instance

instance blind_sliceFieldsDecoder (unit : NalHeader) (referring : ReferringStart) :
    Blind (sliceFieldsDecoder unit referring) := by
  unfold sliceFieldsDecoder
  split <;> infer_instance

instance blind_fieldsDecoder (sequences : IdTable SequenceParameterSet)
    (pictures : IdTable PictureParameterSet) (unit : NalHeader) :
    Blind (fieldsDecoder sequences pictures unit) := by
  rw [fieldsDecoder]
  infer_instance

instance blind_decoder (sequences : IdTable SequenceParameterSet)
    (pictures : IdTable PictureParameterSet) : Blind (decoder sequences pictures) := by
  rw [decoder]
  infer_instance

instance attributed_decoder (sequences : IdTable SequenceParameterSet)
    (pictures : IdTable PictureParameterSet) : Attributed (decoder sequences pictures) := by
  rw [decoder]
  infer_instance

end SliceHeader

namespace SliceType

instance blind_decoder (sequences : IdTable SequenceParameterSet)
    (pictures : IdTable PictureParameterSet) : Blind (decoder sequences pictures) := by
  rw [decoder]
  infer_instance

instance attributed_decoder (sequences : IdTable SequenceParameterSet)
    (pictures : IdTable PictureParameterSet) : Attributed (decoder sequences pictures) := by
  rw [decoder]
  infer_instance

end SliceType

end CodedVideo.Hevc
