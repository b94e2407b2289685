import CodedVideo.Proofs.IdTable
import Mathlib.Data.List.Perm.Basic

/-!
# Tables under distinct identifiers

A table has no more values than there are identifiers. So a table whose identifiers are below its
limit has room for every value with such an identifier. A table is determined by its answers, and
values under distinct identifiers can be put into it in either order.

Main statements: `IdTable.hasRoomFor_of_ids_lt` and `IdTable.taking_comm`.
-/

namespace CodedVideo.IdTable

variable {α : Type}

/-! ## Identifiers -/

theorem mem_ids_insert {table : IdTable α} {id other : Nat} {value : α} :
    other ∈ (table.insert id value).ids ↔ other = id ∨ other ∈ table.ids :=
  mem_ids_insertEntry

/-- The identifiers of a table, and one that is not among them, all below a limit, are no more than
the limit. -/
theorem size_lt_of_ids_lt {table : IdTable α} {limit id : Nat}
    (ids_lt : ∀ other ∈ table.ids, other < limit) (id_lt : id < limit) (isNew : id ∉ table.ids) :
    table.size < limit := by
  have distinct : (id :: table.ids).Nodup :=
    List.nodup_cons.mpr ⟨isNew, table.ids_increasing.imp Nat.ne_of_lt⟩
  have inRange : id :: table.ids ⊆ List.range limit := by
    intro other isListed
    rw [List.mem_range]
    rcases List.mem_cons.mp isListed with rfl | isHeld
    · exact id_lt
    · exact ids_lt other isHeld
  have length_le := (List.subperm_of_subset distinct inRange).length_le
  rw [List.length_cons, ids, List.length_map, List.length_range] at length_le
  exact length_le

/-- A table whose identifiers are below its limit has room under each such identifier. -/
theorem hasRoomFor_of_ids_lt {table : IdTable α} {limit id : Nat}
    (ids_lt : ∀ other ∈ table.ids, other < limit) (id_lt : id < limit) :
    table.hasRoomFor id limit = true := by
  rw [hasRoomFor, Bool.or_eq_true, decide_eq_true_iff, contains_iff_mem_ids]
  by_cases isHeld : id ∈ table.ids
  · exact Or.inl isHeld
  · exact Or.inr (size_lt_of_ids_lt ids_lt id_lt isHeld)

/-! ## Answers -/

theorem mem_entries_iff {table : IdTable α} {entry : Nat × α} :
    entry ∈ table.entries ↔ table.get? entry.1 = some entry.2 := by
  refine ⟨get?_of_mem, fun isHeld => ?_⟩
  obtain ⟨front, back, entries_eq, -⟩ := List.lookup_eq_some_iff.mp isHeld
  rw [entries_eq]
  exact List.mem_append_right front List.mem_cons_self

/-- Tables that answer every query alike are equal. -/
theorem ext_get? {first second : IdTable α} (get?_eq : ∀ id, first.get? id = second.get? id) :
    first = second := by
  have ordered (table : IdTable α) : table.entries.Pairwise fun entry other => entry.1 < other.1 :=
    List.pairwise_map.mp table.ids_increasing
  have nodup (table : IdTable α) : table.entries.Nodup :=
    (ordered table).imp fun less same => Nat.ne_of_lt less (congrArg Prod.fst same)
  have sameEntries : first.entries.Perm second.entries := by
    rw [List.perm_ext_iff_of_nodup (nodup first) (nodup second)]
    intro entry
    rw [mem_entries_iff, mem_entries_iff, get?_eq]
  have entries_eq : first.entries = second.entries :=
    sameEntries.eq_of_pairwise
      (fun _ _ _ _ less greater => absurd greater (Nat.lt_asymm less))
      (ordered first) (ordered second)
  cases first
  cases second
  cases entries_eq
  rfl

/-! ## Insertion in either order -/

/-- Values under two identifiers can be inserted in either order. -/
theorem insert_comm (table : IdTable α) {first second : Nat} (distinct : first ≠ second)
    (firstValue secondValue : α) :
    (table.insert first firstValue).insert second secondValue =
      (table.insert second secondValue).insert first firstValue := by
  refine ext_get? fun id => ?_
  simp only [get?_insert]
  by_cases isFirst : id = first
  · rw [if_neg (isFirst ▸ distinct), if_pos isFirst, if_pos isFirst]
  · rw [if_neg isFirst, if_neg isFirst]

/-- The table that takes in a value that may be offered, under the identifier it carries. -/
def taking (idOf : α → Nat) (table : IdTable α) (offered : Option α) : IdTable α :=
  (offered.map fun value => table.insert (idOf value) value).getD table

variable {idOf : α → Nat}

@[simp]
theorem taking_none (table : IdTable α) : table.taking idOf none = table :=
  rfl

@[simp]
theorem taking_some (table : IdTable α) (value : α) :
    table.taking idOf (some value) = table.insert (idOf value) value :=
  rfl

/-- What holds of the identifiers of a table and of the one that is offered holds behind. -/
theorem forall_mem_ids_taking {condition : Nat → Prop} {table : IdTable α} {offered : Option α}
    (holds : ∀ id ∈ table.ids, condition id) (isMet : ∀ value ∈ offered, condition (idOf value)) :
    ∀ id ∈ (table.taking idOf offered).ids, condition id := by
  cases offered with
  | none => exact holds
  | some value =>
      intro id isHeld
      rcases mem_ids_insert.mp isHeld with rfl | isEarlier
      · exact isMet value rfl
      · exact holds id isEarlier

/-- Values that are offered with two known identifiers have distinct ones. -/
theorem idOf_ne_of_map_eq {first second : Option α} {id other : Nat}
    (id_eq : first.map idOf = some id) (other_eq : second.map idOf = some other)
    (ne : id ≠ other) : ∀ value ∈ first, ∀ other ∈ second, idOf value ≠ idOf other := by
  rintro value rfl other rfl
  cases id_eq
  cases other_eq
  exact ne

/-- Where nothing is offered on one side, no identifiers are the same. -/
theorem idOf_ne_of_eq_none {first second : Option α} (noOffer : first = none ∨ second = none) :
    ∀ value ∈ first, ∀ other ∈ second, idOf value ≠ idOf other := by
  rintro value rfl other rfl
  rcases noOffer with noFirst | noSecond
  · cases noFirst
  · cases noSecond

/-- What is offered under distinct identifiers can be taken in either order. -/
theorem taking_comm (table : IdTable α) {first second : Option α}
    (distinct : ∀ value ∈ first, ∀ other ∈ second, idOf value ≠ idOf other) :
    (table.taking idOf first).taking idOf second =
      (table.taking idOf second).taking idOf first := by
  cases first with
  | none => rfl
  | some value =>
      cases second with
      | none => rfl
      | some other => exact table.insert_comm (distinct value rfl other rfl) value other

end CodedVideo.IdTable
