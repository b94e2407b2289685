import CodedVideo.Proofs.Avc.StoreHistory
import CodedVideo.Proofs.Hevc.StoreHistory

/-!
# Histories of parameter stores

The stores of both codecs obey the same laws.

Main statement: `parameterStores_followOperations`.
-/

namespace CodedVideo

/-- Behind every run of operations from the empty store on, whatever units they are given, the store
is what its history makes of it: no table is larger than its limit, each set stands under its own
identifier, it is the one that was taken last under that identifier since the store was cleared
last, and the identifiers noted are those of the sets that were taken last. Each operation touches
only the table that it names, and none at all if it fails. -/
theorem parameterStores_followOperations :
    (∀ limits operations, (Avc.ParameterStore.run limits operations).2.Follows limits
        (Avc.ParameterStore.run limits operations).1) ∧
      (∀ (operation : Avc.StoreOperation) store, operation.Lawful store) ∧
      (∀ limits operations, (Hevc.ParameterStore.run limits operations).2.Follows limits
        (Hevc.ParameterStore.run limits operations).1) ∧
      ∀ (operation : Hevc.StoreOperation) store, operation.Lawful store :=
  ⟨Avc.ParameterStore.follows_run, Avc.StoreOperation.lawful, Hevc.ParameterStore.follows_run,
    Hevc.StoreOperation.lawful⟩

end CodedVideo
