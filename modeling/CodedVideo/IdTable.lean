/-!
# Tables keyed by identifiers

A table holds at most one value for each identifier, in the order of the identifiers. Since the
order is part of the type, tables that answer every query alike are equal.
-/

namespace CodedVideo

/-- Values under natural numbers, in increasing order of the numbers. -/
structure IdTable (α : Type) where
  entries : List (Nat × α)
  ids_increasing : (entries.map Prod.fst).Pairwise (· < ·)

namespace IdTable

variable {α : Type}

/-- The table without a value. -/
def empty : IdTable α where
  entries := []
  ids_increasing := List.Pairwise.nil

instance : Inhabited (IdTable α) := ⟨empty⟩

/-- The value under an identifier. -/
def get? (table : IdTable α) (id : Nat) : Option α :=
  table.entries.lookup id

/-- A value is held under the identifier. -/
def contains (table : IdTable α) (id : Nat) : Bool :=
  (table.get? id).isSome

/-- The number of values. -/
def size (table : IdTable α) : Nat :=
  table.entries.length

/-- A value can go under an identifier without the table growing beyond `limit` values. -/
def hasRoomFor (table : IdTable α) (id limit : Nat) : Bool :=
  table.contains id || decide (table.size < limit)

/-- The identifiers, in increasing order. -/
def ids (table : IdTable α) : List Nat :=
  table.entries.map Prod.fst

/-- Puts a value into its place among `entries`, over one with the same identifier. -/
def insertEntry (id : Nat) (value : α) : List (Nat × α) → List (Nat × α)
  | [] => [(id, value)]
  | entry :: entries =>
      if id < entry.1 then (id, value) :: entry :: entries
      else if id = entry.1 then (id, value) :: entries
      else entry :: insertEntry id value entries

/-- The identifiers after an insertion are those before it and the new one. -/
theorem mem_ids_insertEntry {id other : Nat} {value : α} {entries : List (Nat × α)} :
    other ∈ (insertEntry id value entries).map Prod.fst ↔
      other = id ∨ other ∈ entries.map Prod.fst := by
  induction entries with
  | nil => simp [insertEntry]
  | cons entry entries inductionHypothesis =>
      simp only [insertEntry]
      split
      · simp
      · split
        · next equal => simp [equal]
        · simp only [List.map_cons, List.mem_cons, inductionHypothesis]
          constructor
          · rintro (first | second | third)
            · exact Or.inr (Or.inl first)
            · exact Or.inl second
            · exact Or.inr (Or.inr third)
          · rintro (first | second | third)
            · exact Or.inr (Or.inl first)
            · exact Or.inl second
            · exact Or.inr (Or.inr third)

/-- Insertion keeps the order of the identifiers. -/
theorem insertEntry_ids_increasing {id : Nat} {value : α} {entries : List (Nat × α)}
    (increasing : (entries.map Prod.fst).Pairwise (· < ·)) :
    ((insertEntry id value entries).map Prod.fst).Pairwise (· < ·) := by
  induction entries with
  | nil => simp [insertEntry]
  | cons entry entries inductionHypothesis =>
      rw [List.map_cons, List.pairwise_cons] at increasing
      simp only [insertEntry]
      split
      · next before =>
        rw [List.map_cons, List.pairwise_cons, List.map_cons, List.pairwise_cons]
        refine ⟨fun other member => ?_, increasing⟩
        rcases List.mem_cons.mp member with equal | later
        · exact equal ▸ before
        · exact Nat.lt_trans before (increasing.1 other later)
      · split
        · next equal =>
          rw [List.map_cons, List.pairwise_cons]
          exact ⟨fun other member => equal ▸ increasing.1 other member, increasing.2⟩
        · next notBefore notEqual =>
          rw [List.map_cons, List.pairwise_cons]
          refine ⟨fun other member => ?_, inductionHypothesis increasing.2⟩
          rcases mem_ids_insertEntry.mp member with equal | later
          · subst equal
            omega
          · exact increasing.1 other later

/-- The table with `value` under `id`, over any value that stood there. -/
def insert (table : IdTable α) (id : Nat) (value : α) : IdTable α where
  entries := insertEntry id value table.entries
  ids_increasing := insertEntry_ids_increasing table.ids_increasing

/-- The table that takes in each entry of a list in turn. -/
def ofList (entries : List (Nat × α)) : IdTable α :=
  entries.foldl (fun table entry => table.insert entry.1 entry.2) empty

end IdTable

end CodedVideo
