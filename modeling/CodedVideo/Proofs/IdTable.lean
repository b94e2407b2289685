import CodedVideo.Error
import CodedVideo.IdTable

/-!
# Tables and their histories

A table that takes values in, each under the identifier that it carries, and is cleared now and then
holds under each identifier the value that was taken last since it was cleared last.

Main statement: `IdTable.Follows.step`, the step that keeps a table in accord with its history.
-/

namespace CodedVideo

/-! ## Insertion -/

namespace IdTable

variable {α : Type}

theorem get?_empty (id : Nat) : (empty : IdTable α).get? id = none :=
  rfl

theorem lookup_insertEntry (id other : Nat) (value : α) (entries : List (Nat × α)) :
    (insertEntry id value entries).lookup other =
      if other = id then some value else entries.lookup other := by
  induction entries with
  | nil =>
      by_cases same : other = id
      · simp [insertEntry, same]
      · simp [insertEntry, same, List.lookup_cons, beq_eq_false_iff_ne.mpr same]
  | cons entry entries inductionHypothesis =>
      rcases entry with ⟨first, held⟩
      simp only [insertEntry]
      by_cases same : other = id
      · subst same
        split
        · simp
        · split
          · simp
          · next notFirst =>
            rw [if_pos rfl, List.lookup_cons, beq_eq_false_iff_ne.mpr notFirst,
              inductionHypothesis, if_pos rfl]
      · rw [if_neg same] at inductionHypothesis ⊢
        split
        · rw [List.lookup_cons, beq_eq_false_iff_ne.mpr same]
        · split
          · next isFirst =>
            cases isFirst
            rw [List.lookup_cons, List.lookup_cons, beq_eq_false_iff_ne.mpr same]
          · rw [List.lookup_cons, List.lookup_cons, inductionHypothesis]

/-- Behind an insertion a table answers with the new value under its identifier, and under every
other one as before. -/
theorem get?_insert (table : IdTable α) (id other : Nat) (value : α) :
    (table.insert id value).get? other = if other = id then some value else table.get? other :=
  lookup_insertEntry id other value table.entries

theorem forall_get?_empty {condition : α → Prop} (id : Nat) (value : α)
    (isListed : (empty : IdTable α).get? id = some value) : condition value :=
  nomatch isListed

/-- What holds of each value of a table and of a new one holds of each value behind the insertion.
-/
theorem forall_get?_insert {condition : α → Prop} {table : IdTable α}
    (holds : ∀ id value, table.get? id = some value → condition value) (id : Nat) {value : α}
    (isMet : condition value) :
    ∀ other held, (table.insert id value).get? other = some held → condition held := by
  intro other held isListed
  rw [get?_insert] at isListed
  split at isListed
  · cases isListed
    exact isMet
  · exact holds other held isListed

/-- Each entry is the answer under its identifier, for no identifier occurs twice. -/
theorem get?_of_mem {table : IdTable α} {entry : Nat × α} (isEntry : entry ∈ table.entries) :
    table.get? entry.1 = some entry.2 := by
  rcases table with ⟨entries, increasing⟩
  simp only [get?]
  simp only at isEntry
  induction entries with
  | nil => cases isEntry
  | cons first entries inductionHypothesis =>
      rw [List.map_cons, List.pairwise_cons] at increasing
      rcases List.mem_cons.mp isEntry with rfl | isLater
      · rw [List.lookup_cons, beq_self_eq_true]
      · have isGreater := increasing.1 entry.1 (List.mem_map_of_mem isLater)
        rw [List.lookup_cons, beq_eq_false_iff_ne.mpr (Nat.ne_of_gt isGreater)]
        exact inductionHypothesis increasing.2 isLater

theorem contains_iff_mem_ids {table : IdTable α} {id : Nat} :
    table.contains id = true ↔ id ∈ table.ids := by
  rw [contains, Option.isSome_iff_exists, ids, List.mem_map]
  constructor
  · rintro ⟨value, get?_eq⟩
    obtain ⟨front, back, entries_eq, _⟩ := List.lookup_eq_some_iff.mp get?_eq
    exact ⟨(id, value), entries_eq ▸ List.mem_append_right front List.mem_cons_self, rfl⟩
  · rintro ⟨entry, isEntry, rfl⟩
    exact ⟨entry.2, get?_of_mem isEntry⟩

/-- An insertion adds at most one entry, and none over an entry with the same identifier. -/
theorem length_insertEntry_le (id : Nat) (value : α) {entries : List (Nat × α)}
    (increasing : (entries.map Prod.fst).Pairwise (· < ·)) :
    (insertEntry id value entries).length ≤ entries.length + 1 ∧
      (id ∈ entries.map Prod.fst → (insertEntry id value entries).length = entries.length) := by
  induction entries with
  | nil => simp [insertEntry]
  | cons entry entries inductionHypothesis =>
      rw [List.map_cons, List.pairwise_cons] at increasing
      rcases inductionHypothesis increasing.2 with ⟨grows, replaces⟩
      rw [List.map_cons, List.mem_cons]
      simp only [insertEntry]
      split
      · next before =>
        refine ⟨Nat.le_refl _, ?_⟩
        rintro (rfl | isLater)
        · exact absurd before (Nat.lt_irrefl _)
        · exact absurd (increasing.1 id isLater) (Nat.lt_asymm before)
      · split
        · exact ⟨Nat.le_succ _, fun _ => rfl⟩
        · next notFirst =>
          refine ⟨Nat.succ_le_succ grows, ?_⟩
          rintro (isFirst | isLater)
          · exact absurd isFirst notFirst
          · exact congrArg (· + 1) (replaces isLater)

/-- A table that has room for a value does not grow beyond its limit by it. -/
theorem size_insert_le {table : IdTable α} {id limit : Nat} (value : α)
    (hasRoom : table.hasRoomFor id limit = true) (size_le : table.size ≤ limit) :
    (table.insert id value).size ≤ limit := by
  rcases length_insertEntry_le id value table.ids_increasing with ⟨grows, replaces⟩
  rw [hasRoomFor, Bool.or_eq_true, decide_eq_true_iff, contains_iff_mem_ids] at hasRoom
  rcases hasRoom with isHeld | isSmaller
  · exact Nat.le_trans (Nat.le_of_eq (replaces isHeld)) size_le
  · exact Nat.le_trans grows isSmaller

end IdTable

/-! ## Changes -/

/-- What an operation does to a table. -/
inductive TableChange (α : Type) where
  /-- The table stays as it is. -/
  | keep
  /-- A value is taken in. -/
  | take (value : α)
  /-- The table forgets all values. -/
  | clear

namespace TableChange

variable {α ρ : Type}

/-- What an operation with the given answer does to a table that it offers a value to: nothing, if
it fails. -/
def caused (clears : Bool) (offered : Option α) (answer : Except Error ρ) : TableChange α :=
  match clears, offered, answer with
  | true, _, _ => clear
  | false, some value, .ok _ => take value
  | false, _, _ => keep

/-- The table behind a change. -/
def applyTo (idOf : α → Nat) (table : IdTable α) : TableChange α → IdTable α
  | keep => table
  | take value => table.insert (idOf value) value
  | clear => .empty

/-- The identifier that was taken last, behind a change. -/
def noteTo (idOf : α → Nat) (active : Option Nat) : TableChange α → Option Nat
  | keep => active
  | take value => some (idOf value)
  | clear => none

/-- The values that were taken since the table was cleared last. Both the changes and the values are
listed from the latest one on. -/
def taken : List (TableChange α) → List α
  | [] => []
  | keep :: earlier => taken earlier
  | take value :: earlier => value :: taken earlier
  | clear :: _ => []

@[simp]
theorem caused_clears (offered : Option α) (answer : Except Error ρ) :
    caused true offered answer = clear :=
  rfl

@[simp]
theorem caused_none (answer : Except Error ρ) : caused false (none : Option α) answer = keep :=
  rfl

@[simp]
theorem caused_error (offered : Option α) (error : Error) :
    caused false offered (.error error : Except Error ρ) = keep := by
  cases offered with
  | none => rfl
  | some value => rfl

@[simp]
theorem caused_some (value : α) (answer : ρ) :
    caused false (some value) (.ok answer : Except Error ρ) = take value :=
  rfl

/-- A change leads from one table to another, and the first has room for what is taken. -/
structure LeadsTo (change : TableChange α) (idOf : α → Nat) (limit : Nat)
    (before after : IdTable α) : Prop where
  after_eq : after = change.applyTo idOf before
  hasRoom : ∀ value, change = take value → before.hasRoomFor (idOf value) limit = true

variable {change : TableChange α} {idOf : α → Nat} {limit : Nat} {table : IdTable α}

theorem LeadsTo.kept (keeps : change = keep) : change.LeadsTo idOf limit table table where
  after_eq := keeps ▸ rfl
  hasRoom := fun _ takes => by cases keeps.symm.trans takes

theorem LeadsTo.took {value : α} (takes : change = take value)
    (hasRoom : table.hasRoomFor (idOf value) limit = true) :
    change.LeadsTo idOf limit table (table.insert (idOf value) value) where
  after_eq := takes ▸ rfl
  hasRoom := fun _ isTaken => by
    cases takes.symm.trans isTaken
    exact hasRoom

theorem LeadsTo.cleared (clears : change = clear) :
    change.LeadsTo idOf limit table IdTable.empty where
  after_eq := clears ▸ rfl
  hasRoom := fun _ takes => by cases clears.symm.trans takes

end TableChange

/-! ## Histories -/

/-- The table holds what is left of the values that were taken since it was cleared last, from the
latest one on: no more than `limit` of them, each under its own identifier, and under each
identifier the latest one that carries it. -/
structure IdTable.Follows {α : Type} (table : IdTable α) (idOf : α → Nat) (limit : Nat)
    (taken : List α) : Prop where
  size_le : table.size ≤ limit
  id_eq : ∀ entry ∈ table.entries, idOf entry.2 = entry.1
  latest : ∀ id, table.get? id = taken.find? fun value => idOf value == id

/-- The identifier names the value that was taken last, and the table holds a value under it. Where
nothing was taken there is no such identifier. -/
structure IdTable.NamesLatest {α : Type} (table : IdTable α) (active : Option Nat) (idOf : α → Nat)
    (taken : List α) : Prop where
  active_eq : active = taken.head?.map idOf
  isHeld : ∀ id, active = some id → table.contains id = true

namespace IdTable.Follows

open TableChange (taken)

variable {α : Type} {table next : IdTable α} {idOf : α → Nat} {limit : Nat} {values : List α}
  {active : Option Nat} {change : TableChange α} {earlier : List (TableChange α)}

theorem empty (idOf : α → Nat) (limit : Nat) : (IdTable.empty : IdTable α).Follows idOf limit [] where
  size_le := Nat.zero_le limit
  id_eq := List.forall_mem_nil _
  latest := IdTable.get?_empty

/-- A table that takes in a value that it has room for goes on following its history. -/
theorem insert (follows : table.Follows idOf limit values) {value : α}
    (hasRoom : table.hasRoomFor (idOf value) limit = true) :
    (table.insert (idOf value) value).Follows idOf limit (value :: values) := by
  have latest (id : Nat) : (table.insert (idOf value) value).get? id =
      (value :: values).find? fun value => idOf value == id := by
    rw [get?_insert, follows.latest, List.find?_cons]
    by_cases same : id = idOf value
    · rw [if_pos same, beq_iff_eq.mpr same.symm]
    · rw [if_neg same, beq_eq_false_iff_ne.mpr (Ne.symm same)]
  refine ⟨size_insert_le value hasRoom follows.size_le, ?_, latest⟩
  intro entry isEntry
  have carried := List.find?_some ((latest entry.1).symm.trans (get?_of_mem isEntry))
  exact beq_iff_eq.mp carried

/-- A table goes on following its history through every change. -/
theorem step (follows : table.Follows idOf limit (taken earlier))
    (leads : change.LeadsTo idOf limit table next) :
    next.Follows idOf limit (taken (change :: earlier)) := by
  rcases leads with ⟨rfl, hasRoom⟩
  cases change with
  | keep => exact follows
  | take value => exact follows.insert (hasRoom value rfl)
  | clear => exact Follows.empty idOf limit

/-- The identifier of the latest value is held. -/
theorem namesLatest (follows : table.Follows idOf limit values)
    (active_eq : active = values.head?.map idOf) : table.NamesLatest active idOf values := by
  refine ⟨active_eq, fun id isActive => ?_⟩
  obtain ⟨value, head_eq, rfl⟩ := Option.map_eq_some_iff.mp (active_eq.symm.trans isActive)
  obtain ⟨earlier, rfl⟩ := List.head?_eq_some_iff.mp head_eq
  rw [contains, follows.latest, List.find?_cons, beq_self_eq_true]
  rfl

end IdTable.Follows

/-- The identifier that was taken last names the latest value through a change. -/
theorem TableChange.noteTo_eq {α : Type} {idOf : α → Nat} {active : Option Nat}
    {earlier : List (TableChange α)} (active_eq : active = (taken earlier).head?.map idOf)
    (change : TableChange α) :
    change.noteTo idOf active = (taken (change :: earlier)).head?.map idOf := by
  cases change with
  | keep => exact active_eq
  | take value => rfl
  | clear => rfl

end CodedVideo
