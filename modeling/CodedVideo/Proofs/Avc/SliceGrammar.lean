import CodedVideo.Avc.SliceHeader
import CodedVideo.Proofs.Decoder.Attributed
import CodedVideo.Proofs.SharedGrammar

/-!
# The grammar of AVC slice headers

No part of a slice header is decoded by looking ahead, and each error names a structure.
-/

namespace CodedVideo

open Decoder (Attributed Blind)

namespace Avc

instance NalHeader.blind_decoder : Blind NalHeader.decoder := by
  rw [NalHeader.decoder]
  infer_instance

namespace SliceHeader

instance blind_wideField (name : String) (width : Nat) : Blind (wideField name width) := by
  rw [wideField]
  infer_instance

instance blind_typeDecoder : Blind typeDecoder := by
  apply Blind.unsigned.sequence
  intro code
  split <;> infer_instance

instance blind_findPictureSet (pictures : IdTable PictureParameterSet) (id : Nat) :
    Blind (findPictureSet pictures id) := by
  unfold findPictureSet
  split <;> infer_instance

instance blind_findSequenceSet (sequences : IdTable SequenceParameterSet) (id : Nat) :
    Blind (findSequenceSet sequences id) := by
  unfold findSequenceSet
  split <;> infer_instance

instance blind_pictureStructureDecoder (framesOnly : Bool) :
    Blind (pictureStructureDecoder framesOnly) := by
  rw [pictureStructureDecoder]
  infer_instance

instance blind_pictureOrderDecoder (sequenceSet : SequenceParameterSet) (present : Bool) :
    Blind (pictureOrderDecoder sequenceSet present) := by
  unfold pictureOrderDecoder
  split <;> infer_instance

instance blind_activeReferencesDecoder (pictureSet : PictureParameterSet) (sliceType : SliceType) :
    Blind (activeReferencesDecoder pictureSet sliceType) := by
  rw [activeReferencesDecoder]
  infer_instance

instance blind_listModificationEntry (code : Nat) : Blind (listModificationEntry code) := by
  unfold listModificationEntry
  split <;> infer_instance

instance blind_listModificationDecoder : Blind listModificationDecoder := by
  rw [listModificationDecoder]
  infer_instance

instance blind_predictionWeightDecoder (chromaCoded : Bool) :
    Blind (predictionWeightDecoder chromaCoded) := by
  rw [predictionWeightDecoder]
  infer_instance

instance blind_weightTableDecoder (chromaCoded bidirectional : Bool) (active : ActiveReferences) :
    Blind (weightTableDecoder chromaCoded bidirectional active) := by
  rw [weightTableDecoder]
  infer_instance

instance blind_memoryOperationEntry (code : Nat) : Blind (memoryOperationEntry code) := by
  unfold memoryOperationEntry
  split <;> infer_instance

instance blind_markingDecoder (idr : Bool) : Blind (markingDecoder idr) := by
  rw [markingDecoder]
  infer_instance

instance blind_deblockingDecoder : Blind deblockingDecoder := by
  rw [deblockingDecoder]
  infer_instance

instance blind_changeCycleDecoder (sequenceSet : SequenceParameterSet)
    (pictureSet : PictureParameterSet) : Blind (changeCycleDecoder sequenceSet pictureSet) := by
  unfold changeCycleDecoder
  split <;> infer_instance

instance blind_fields (sequences : IdTable SequenceParameterSet)
    (pictures : IdTable PictureParameterSet) (unit : NalHeader) :
    Blind (fields sequences pictures unit) := by
  rw [fields]
  infer_instance

instance blind_decoder (sequences : IdTable SequenceParameterSet)
    (pictures : IdTable PictureParameterSet) : Blind (decoder sequences pictures) := by
  rw [decoder]
  infer_instance

instance attributed_refusal (unitType : NalUnitType) : (refusal unitType).Attributed := by
  unfold refusal
  split <;> infer_instance

instance attributed_decoder (sequences : IdTable SequenceParameterSet)
    (pictures : IdTable PictureParameterSet) : Attributed (decoder sequences pictures) := by
  rw [decoder]
  infer_instance

end SliceHeader

instance SliceType.blind_decoder : Blind SliceType.decoder := by
  rw [SliceType.decoder]
  infer_instance

instance SliceType.attributed_decoder : Attributed SliceType.decoder := by
  rw [SliceType.decoder]
  infer_instance

end Avc

end CodedVideo
