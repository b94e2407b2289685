import CodedVideo.NalUnit.EscapedSource
import CodedVideo.Proofs.Bits.InStep
import CodedVideo.Proofs.Bits.Strings
import CodedVideo.Proofs.NalUnit.Emulation

/-!
# Where a source of an escaped unit stands

The loaded part of a unit determines the counts that a source keeps: the inserted bytes passed over,
and the zeros that the removal of inserted bytes has counted. Behind each step an inserted byte that
stands next has been passed over, so the byte that is loaded next belongs to the payload.

Main statement: such a source hands out the bits of the payload, one by one, at their positions in
the payload.
-/

namespace CodedVideo.EscapedSource

open Emulation (zerosBefore preventionByte zerosBehind zeroRun)

/-- The part of the unit that is loaded. -/
def front (source : EscapedSource) : List UInt8 :=
  source.unit.take source.loaded

/-- The bits of the payload that are not handed out yet. -/
def unread (source : EscapedSource) : List Bool :=
  source.pending ++ Bits.ofBytes (Emulation.removeAfter source.zeros source.rest)

/-- The counts of a source are those of its loaded part. -/
structure Counted (source : EscapedSource) : Prop where
  loaded_le : source.loaded ≤ source.unit.length
  rest_eq : source.rest = source.unit.drop source.loaded
  zeros_eq : source.zeros = zerosBehind 0 source.front
  escapes_eq : source.escapes = Emulation.count source.front

/-- No inserted byte stands next. -/
def Settled (source : EscapedSource) : Prop :=
  ∀ byte rest, source.rest = byte :: rest → ¬ (source.zeros = zerosBefore ∧ byte = preventionByte)

/-- Between two steps the counts are those of the loaded part, no inserted byte stands next, and the
bits that wait are the last ones of the loaded payload. -/
structure Valid (source : EscapedSource) : Prop extends Counted source where
  settled : source.Settled
  pending_suffix : source.pending <:+ Bits.ofBytes (Emulation.remove source.front)
  pending_short : source.pending.length < 8
  /-- Behind a zero byte only zeros wait. -/
  pending_zero : source.zeros ≠ 0 → ∀ bit ∈ source.pending, bit = false

/-! ## The start -/

/-- A source that has loaded nothing is valid. -/
theorem valid_ofUnit (unit : List UInt8) : (ofUnit unit).Valid where
  loaded_le := Nat.zero_le _
  rest_eq := rfl
  zeros_eq := rfl
  escapes_eq := rfl
  settled := by
    intro byte rest _ armed
    exact Nat.noConfusion armed.1
  pending_suffix := List.nil_suffix
  pending_short := Nat.zero_lt_succ 7
  pending_zero := fun armed => absurd rfl armed

/-! ## Loading a stored byte -/

/-- The source behind the next stored byte, where the rule has then counted `zeros` zeros. -/
def advance (source : EscapedSource) (rest : List UInt8) (escapes zeros : Nat) : EscapedSource :=
  { source with rest, loaded := source.loaded + 1, escapes, zeros }

theorem front_advance {source : EscapedSource} {byte : UInt8} {rest : List UInt8}
    (counted : source.Counted) (rest_eq : source.rest = byte :: rest) (escapes zeros : Nat) :
    (source.advance rest escapes zeros).front = source.front ++ [byte] := by
  have next_eq : source.unit[source.loaded]? = some byte := by
    rw [← List.head?_drop, ← counted.rest_eq, rest_eq]
    rfl
  simp only [front, advance, List.take_add_one, next_eq, Option.toList_some]

/-- What is counted in a front that grew by a byte. -/
theorem count_append_singleton (front : List UInt8) (byte : UInt8) :
    Emulation.count (front ++ [byte]) =
      if zerosBehind 0 front = zerosBefore ∧ byte = preventionByte then
        Emulation.count front + 1 else Emulation.count front := by
  have frontLength := Emulation.length_remove_add_count front
  have wholeLength := Emulation.length_remove_add_count (front ++ [byte])
  rw [Emulation.remove_append, List.length_append, List.length_append] at wholeLength
  simp only [Emulation.removeAfter] at wholeLength
  split <;> simp_all <;> omega

/-- Counts that follow the rule stay those of the loaded part. -/
theorem Counted.advance {source : EscapedSource} {byte : UInt8} {rest : List UInt8}
    {escapes zeros : Nat} (counted : source.Counted) (rest_eq : source.rest = byte :: rest)
    (zeros_eq : zeros = zerosBehind source.zeros [byte])
    (escapes_eq : escapes = if source.zeros = zerosBefore ∧ byte = preventionByte then
      source.escapes + 1 else source.escapes) :
    (source.advance rest escapes zeros).Counted where
  loaded_le := by
    have drop_eq := congrArg List.length (counted.rest_eq.symm.trans rest_eq)
    simp only [List.length_drop, List.length_cons] at drop_eq
    simp only [EscapedSource.advance]
    omega
  rest_eq := by
    have drop_eq := counted.rest_eq.symm.trans rest_eq
    simp only [EscapedSource.advance]
    rw [← List.drop_drop, drop_eq]
    rfl
  zeros_eq := by
    rw [front_advance counted rest_eq, Emulation.zerosBehind_append, ← counted.zeros_eq]
    exact zeros_eq
  escapes_eq := by
    rw [front_advance counted rest_eq, count_append_singleton, ← counted.zeros_eq,
      ← counted.escapes_eq]
    exact escapes_eq

/-! ## Passing over an inserted byte -/

/-- An inserted byte is passed over; any other byte stays where it is. -/
theorem passEscape_cases (source : EscapedSource) :
    (source.passEscape = source ∧ source.Settled) ∨
      ∃ byte rest, source.rest = byte :: rest ∧
        (source.zeros = zerosBefore ∧ byte = preventionByte) ∧
          source.passEscape = source.advance rest (source.escapes + 1) 0 := by
  unfold passEscape
  split
  · next byte rest rest_eq =>
    split
    · next inserted => exact Or.inr ⟨byte, rest, rest_eq, inserted, rfl⟩
    · next notInserted =>
      have settled : source.Settled := by
        intro nextByte nextRest next_eq
        rw [rest_eq] at next_eq
        rw [← (List.cons.inj next_eq).1]
        exact notInserted
      exact Or.inl ⟨rfl, settled⟩
  · next rest_eq =>
    have settled : source.Settled := by
      intro byte rest next_eq
      rw [rest_eq] at next_eq
      contradiction
    exact Or.inl ⟨rfl, settled⟩

/-- A settled source has nothing to pass over. -/
theorem passEscape_eq_self {source : EscapedSource} (settled : source.Settled) :
    source.passEscape = source := by
  rcases source.passEscape_cases with ⟨unchanged, _⟩ | ⟨byte, rest, rest_eq, inserted, _⟩
  · exact unchanged
  · exact absurd inserted (settled byte rest rest_eq)

theorem settled_passEscape (source : EscapedSource) : source.passEscape.Settled := by
  rcases source.passEscape_cases with ⟨unchanged, settled⟩ | ⟨byte, rest, _, _, passed⟩
  · rw [unchanged]
    exact settled
  · rw [passed]
    intro nextByte nextRest _ armed
    exact Nat.noConfusion armed.1

theorem Counted.passEscape {source : EscapedSource} (counted : source.Counted) :
    source.passEscape.Counted := by
  rcases source.passEscape_cases with ⟨unchanged, _⟩ | ⟨byte, rest, rest_eq, inserted, passed⟩
  · rw [unchanged]
    exact counted
  · rw [passed]
    apply counted.advance rest_eq
    · simp only [zerosBehind, if_pos inserted]
    · rw [if_pos inserted]

/-- Passing over an inserted byte loads nothing of the payload. -/
theorem Counted.remove_front_passEscape {source : EscapedSource} (counted : source.Counted) :
    Emulation.remove source.passEscape.front = Emulation.remove source.front := by
  rcases source.passEscape_cases with ⟨unchanged, _⟩ | ⟨byte, rest, rest_eq, inserted, passed⟩
  · rw [unchanged]
  · rw [passed, front_advance counted rest_eq, Emulation.remove_append, ← counted.zeros_eq]
    simp only [Emulation.removeAfter, if_pos inserted, List.append_nil]

/-- Passing over an inserted byte leaves the same payload. -/
theorem removeAfter_passEscape (source : EscapedSource) :
    Emulation.removeAfter source.passEscape.zeros source.passEscape.rest =
      Emulation.removeAfter source.zeros source.rest := by
  rcases source.passEscape_cases with ⟨unchanged, _⟩ | ⟨byte, rest, rest_eq, inserted, passed⟩
  · rw [unchanged]
  · rw [passed, rest_eq, Emulation.removeAfter, if_pos inserted]
    rfl

theorem passEscape_pending (source : EscapedSource) :
    source.passEscape.pending = source.pending := by
  rcases source.passEscape_cases with ⟨unchanged, _⟩ | ⟨byte, rest, _, _, passed⟩
  · rw [unchanged]
  · rw [passed]
    rfl

theorem passEscape_unit (source : EscapedSource) : source.passEscape.unit = source.unit := by
  rcases source.passEscape_cases with ⟨unchanged, _⟩ | ⟨byte, rest, _, _, passed⟩
  · rw [unchanged]
  · rw [passed]
    rfl

/-! ## Steps -/

/-- The source behind a byte of the payload, all bits of which wait. -/
def load (source : EscapedSource) (byte : UInt8) (rest : List UInt8) : EscapedSource :=
  (source.advance rest source.escapes (zeroRun source.zeros byte)).passEscape

/-- A bit that waits is handed out. -/
theorem next_of_pending {source : EscapedSource} {bit : Bool} {pending : List Bool}
    (pending_eq : source.pending = bit :: pending) :
    BitSource.next source = some (bit, { source with pending }) := by
  simp only [BitSource.next, next, pending_eq]

/-- At the end nothing is handed out. -/
theorem next_of_rest_nil {source : EscapedSource} (pending_eq : source.pending = [])
    (rest_eq : source.rest = []) : BitSource.next source = none := by
  simp only [BitSource.next, next, pending_eq, loadByte, rest_eq]

/-- Where no bit waits, a byte is loaded and its first bit is handed out. -/
theorem next_of_rest_cons {source : EscapedSource} {byte : UInt8} {rest : List UInt8} {bit : Bool}
    {pending : List Bool} (pending_eq : source.pending = []) (rest_eq : source.rest = byte :: rest)
    (bits_eq : Bits.ofByte byte = bit :: pending) :
    BitSource.next source = some (bit, { source.load byte rest with pending }) := by
  simp only [BitSource.next, next, pending_eq, loadByte, rest_eq, bits_eq, load, advance]

/-- A step hands out a bit that waits, or loads a byte and hands out its first bit. -/
theorem next_cases {source after : EscapedSource} {bit : Bool}
    (next_eq : BitSource.next source = some (bit, after)) :
    (∃ pending, source.pending = bit :: pending ∧ after = { source with pending }) ∨
      (source.pending = [] ∧ ∃ byte rest pending, source.rest = byte :: rest ∧
        Bits.ofByte byte = bit :: pending ∧ after = { source.load byte rest with pending }) := by
  cases pending_eq : source.pending with
  | cons first pending =>
      rw [next_of_pending pending_eq] at next_eq
      cases next_eq
      exact Or.inl ⟨pending, rfl, rfl⟩
  | nil =>
      cases rest_eq : source.rest with
      | nil =>
          rw [next_of_rest_nil pending_eq rest_eq] at next_eq
          contradiction
      | cons byte rest =>
          obtain ⟨first, pending, bits_eq, _⟩ := Bits.exists_ofByte_eq_cons byte
          rw [next_of_rest_cons pending_eq rest_eq bits_eq] at next_eq
          cases next_eq
          exact Or.inr ⟨rfl, byte, rest, pending, rfl, bits_eq, rfl⟩

/-- Where no bit waits and no byte is left to load, the source is at its end. -/
theorem next_eq_none_iff {source : EscapedSource} :
    BitSource.next source = none ↔ source.pending = [] ∧ source.rest = [] := by
  constructor
  · intro atEnd
    cases pending_eq : source.pending with
    | cons first pending =>
        rw [next_of_pending pending_eq] at atEnd
        contradiction
    | nil =>
        cases rest_eq : source.rest with
        | nil => exact ⟨rfl, rfl⟩
        | cons byte rest =>
            obtain ⟨first, pending, bits_eq, _⟩ := Bits.exists_ofByte_eq_cons byte
            rw [next_of_rest_cons pending_eq rest_eq bits_eq] at atEnd
            contradiction
  · rintro ⟨pending_eq, rest_eq⟩
    exact next_of_rest_nil pending_eq rest_eq

/-- Behind a byte that is loaded no more bytes are left than stand behind it. -/
theorem length_rest_load_le (source : EscapedSource) (byte : UInt8) (rest : List UInt8) :
    (source.load byte rest).rest.length ≤ rest.length := by
  rcases (source.advance rest source.escapes (zeroRun source.zeros byte)).passEscape_cases with
    ⟨unchanged, _⟩ | ⟨inserted, others, rest_eq, _, passed⟩
  · rw [load, unchanged]
    exact Nat.le_refl rest.length
  · have rest_eq : rest = inserted :: others := rest_eq
    rw [load, passed, rest_eq]
    exact Nat.le_succ others.length

instance : FiniteSource EscapedSource where
  bitsLeft_lt {source after bit} next_eq := by
    rcases next_cases next_eq with ⟨pending, pending_eq, rfl⟩ |
      ⟨pending_eq, byte, rest, pending, rest_eq, bits_eq, rfl⟩
    · simp only [BitSource.bitsLeft, pending_eq, List.length_cons]
      omega
    · have noMore := length_rest_load_le source byte rest
      have bits := congrArg List.length bits_eq
      rw [Bits.length_ofByte, List.length_cons] at bits
      simp only [BitSource.bitsLeft, pending_eq, rest_eq, List.length_cons, List.length_nil]
      omega

/-! ## Positions -/

theorem Counted.length_front {source : EscapedSource} (counted : source.Counted) :
    source.front.length = source.loaded :=
  List.length_take_of_le counted.loaded_le

/-- The loaded bytes that are not inserted ones are those of the loaded payload. -/
theorem Counted.loaded_sub_escapes {source : EscapedSource} (counted : source.Counted) :
    source.loaded - source.escapes = (Emulation.remove source.front).length := by
  have parts := Emulation.length_remove_add_count source.front
  rw [counted.length_front, ← counted.escapes_eq] at parts
  omega

/-- The bits handed out and those that wait are the bits of the loaded payload. -/
theorem Valid.position_add_pending {source : EscapedSource} (valid : source.Valid) :
    BitSource.position source + source.pending.length =
      8 * (Emulation.remove source.front).length := by
  have waiting := valid.pending_suffix.length_le
  rw [Bits.length_ofBytes] at waiting
  simp only [BitSource.position, valid.loaded_sub_escapes]
  omega

/-! ## Validity behind a step -/

/-- Handing out a bit that waits keeps a source valid. -/
theorem Valid.dropPending {source : EscapedSource} {bit : Bool} {pending : List Bool}
    (valid : source.Valid) (pending_eq : source.pending = bit :: pending) :
    ({ source with pending } : EscapedSource).Valid where
  toCounted := ⟨valid.loaded_le, valid.rest_eq, valid.zeros_eq, valid.escapes_eq⟩
  settled := valid.settled
  pending_suffix := (pending_eq ▸ List.suffix_cons bit pending).trans valid.pending_suffix
  pending_short := by
    have short := valid.pending_short
    rw [pending_eq, List.length_cons] at short
    exact Nat.lt_of_succ_lt short
  pending_zero armed := by
    intro other isPending
    exact valid.pending_zero armed other (pending_eq ▸ List.mem_cons_of_mem bit isPending)

section

variable {source : EscapedSource} {byte : UInt8} {rest : List UInt8}

/-- Loading a byte keeps the counts those of the loaded part. -/
theorem Valid.counted_load (valid : source.Valid) (rest_eq : source.rest = byte :: rest) :
    (source.load byte rest).Counted := by
  have notInserted := valid.settled byte rest rest_eq
  apply Counted.passEscape
  apply valid.toCounted.advance rest_eq
  · simp only [zerosBehind, if_neg notInserted]
  · rw [if_neg notInserted]

/-- Loading a byte adds it to the loaded payload. -/
theorem Valid.remove_front_load (valid : source.Valid) (rest_eq : source.rest = byte :: rest) :
    Emulation.remove (source.load byte rest).front = Emulation.remove source.front ++ [byte] := by
  have notInserted := valid.settled byte rest rest_eq
  have counted : (source.advance rest source.escapes (zeroRun source.zeros byte)).Counted := by
    apply valid.toCounted.advance rest_eq
    · simp only [zerosBehind, if_neg notInserted]
    · rw [if_neg notInserted]
  rw [load, counted.remove_front_passEscape, front_advance valid.toCounted rest_eq,
    Emulation.remove_append, ← valid.zeros_eq]
  simp only [Emulation.removeAfter, if_neg notInserted]

/-- Behind a byte other than zero no zeros are counted. -/
theorem zeros_load_of_ne_zero (notZero : byte ≠ 0) : (source.load byte rest).zeros = 0 := by
  rcases (source.advance rest source.escapes (zeroRun source.zeros byte)).passEscape_cases with
    ⟨unchanged, _⟩ | ⟨_, _, _, _, passed⟩
  · rw [load, unchanged]
    simp only [advance, zeroRun, if_neg notZero]
  · rw [load, passed]
    rfl

/-- Handing out the first bit of a byte that is loaded keeps a source valid. -/
theorem Valid.load {bit : Bool} {pending : List Bool} (valid : source.Valid)
    (rest_eq : source.rest = byte :: rest) (bits_eq : Bits.ofByte byte = bit :: pending) :
    ({ source.load byte rest with pending } : EscapedSource).Valid where
  toCounted := by
    have counted := valid.counted_load rest_eq
    exact ⟨counted.loaded_le, counted.rest_eq, counted.zeros_eq, counted.escapes_eq⟩
  settled := settled_passEscape _
  pending_suffix := by
    change pending <:+ Bits.ofBytes (Emulation.remove (source.load byte rest).front)
    rw [valid.remove_front_load rest_eq, Bits.ofBytes_append, Bits.ofBytes_cons, Bits.ofBytes_nil,
      List.append_nil, bits_eq]
    exact (List.suffix_cons bit pending).trans (List.suffix_append _ _)
  pending_short := by
    have bits := congrArg List.length bits_eq
    rw [Bits.length_ofByte, List.length_cons] at bits
    change pending.length < 8
    omega
  pending_zero armed := by
    intro other isPending
    by_cases isZero : byte = 0
    · subst isZero
      apply Bits.eq_false_of_mem_ofByte_zero
      rw [bits_eq]
      exact List.mem_cons_of_mem bit isPending
    · exact absurd (zeros_load_of_ne_zero isZero) armed

end

section

variable {source after : EscapedSource} {bit : Bool}

/-- A step keeps a source valid. -/
theorem Valid.next (valid : source.Valid) (next_eq : BitSource.next source = some (bit, after)) :
    after.Valid := by
  rcases next_cases next_eq with ⟨pending, pending_eq, rfl⟩ |
    ⟨_, byte, rest, pending, rest_eq, bits_eq, rfl⟩
  · exact valid.dropPending pending_eq
  · exact valid.load rest_eq bits_eq

/-- A step stays in the same unit. -/
theorem unit_of_next (next_eq : BitSource.next source = some (bit, after)) :
    after.unit = source.unit := by
  rcases next_cases next_eq with ⟨pending, _, rfl⟩ | ⟨_, byte, rest, pending, _, _, rfl⟩
  · rfl
  · exact passEscape_unit _

/-- A step moves on by one bit of the payload. -/
theorem Valid.position_next (valid : source.Valid)
    (next_eq : BitSource.next source = some (bit, after)) :
    BitSource.position after = BitSource.position source + 1 := by
  have before := valid.position_add_pending
  have behind := (valid.next next_eq).position_add_pending
  rcases next_cases next_eq with ⟨pending, pending_eq, rfl⟩ |
    ⟨pending_eq, byte, rest, pending, rest_eq, bits_eq, rfl⟩
  · rw [pending_eq, List.length_cons] at before
    change _ + pending.length = 8 * (Emulation.remove source.front).length at behind
    omega
  · have bits := congrArg List.length bits_eq
    change _ + pending.length =
      8 * (Emulation.remove (source.load byte rest).front).length at behind
    rw [valid.remove_front_load rest_eq, List.length_append, List.length_singleton] at behind
    rw [pending_eq, List.length_nil] at before
    rw [Bits.length_ofByte, List.length_cons] at bits
    omega

/-- A step hands out the first of the bits that are unread. -/
theorem Valid.unread_next (valid : source.Valid)
    (next_eq : BitSource.next source = some (bit, after)) :
    source.unread = bit :: after.unread := by
  rcases next_cases next_eq with ⟨pending, pending_eq, rfl⟩ |
    ⟨pending_eq, byte, rest, pending, rest_eq, bits_eq, rfl⟩
  · simp only [unread, pending_eq, List.cons_append]
  · have notInserted := valid.settled byte rest rest_eq
    have payload_eq : Emulation.removeAfter (source.load byte rest).zeros
        (source.load byte rest).rest = Emulation.removeAfter (zeroRun source.zeros byte) rest :=
      removeAfter_passEscape _
    simp only [unread, pending_eq, rest_eq, Emulation.removeAfter, if_neg notInserted, payload_eq,
      Bits.ofBytes_cons, bits_eq, List.nil_append, List.cons_append]

/-- Behind a one no zeros are counted, for the byte that holds it is not zero. -/
theorem Valid.zeros_of_next_true (valid : source.Valid)
    (next_eq : BitSource.next source = some (true, after)) : after.zeros = 0 := by
  rcases next_cases next_eq with ⟨pending, pending_eq, rfl⟩ |
    ⟨_, byte, rest, pending, _, bits_eq, rfl⟩
  · by_cases armed : source.zeros = 0
    · exact armed
    · have isZero := valid.pending_zero armed true (pending_eq ▸ List.mem_cons_self)
      contradiction
  · apply zeros_load_of_ne_zero
    rintro rfl
    have isZero := Bits.eq_false_of_mem_ofByte_zero (bits_eq ▸ List.mem_cons_self : true ∈ _)
    contradiction

end

/-- At the end no bit is unread, and only there. -/
theorem Valid.unread_eq_nil_iff {source : EscapedSource} (valid : source.Valid) :
    source.unread = [] ↔ BitSource.next source = none := by
  cases next_eq : BitSource.next source with
  | none =>
      rcases next_eq_none_iff.mp next_eq with ⟨pending_eq, rest_eq⟩
      simp [unread, pending_eq, rest_eq, Emulation.removeAfter]
  | some step => simp [valid.unread_next next_eq]

/-! ## Sources of one unit -/

/-- A valid source of a given unit. -/
structure ValidIn (unit : List UInt8) (source : EscapedSource) : Prop extends Valid source where
  unit_eq : source.unit = unit

theorem validIn_ofUnit (unit : List UInt8) : (ofUnit unit).ValidIn unit where
  toValid := valid_ofUnit unit
  unit_eq := rfl

theorem ValidIn.next {unit : List UInt8} {source after : EscapedSource} {bit : Bool}
    (valid : source.ValidIn unit) (next_eq : BitSource.next source = some (bit, after)) :
    after.ValidIn unit where
  toValid := valid.toValid.next next_eq
  unit_eq := (unit_of_next next_eq).trans valid.unit_eq

/-- At the end the whole unit is loaded. -/
theorem ValidIn.front_eq {unit : List UInt8} {source : EscapedSource}
    (valid : source.ValidIn unit) (atEnd : BitSource.next source = none) :
    source.loaded = unit.length ∧ source.front = unit := by
  have nothingLeft := valid.rest_eq
  have loaded_le := valid.loaded_le
  rw [(next_eq_none_iff.mp atEnd).2, valid.unit_eq, eq_comm, List.drop_eq_nil_iff] at nothingLeft
  rw [valid.unit_eq] at loaded_le
  constructor
  · exact Nat.le_antisymm loaded_le nothingLeft
  · rw [front, valid.unit_eq]
    exact List.take_of_length_le nothingLeft

/-! ## The payload as a plain source -/

/-- The plain source that stands at the same bit of the payload. -/
def payload (source : EscapedSource) : PlainSource where
  position := BitSource.position source
  unread := source.unread

/-- An escaped unit hands out the bits of its payload. -/
theorem inStep_payload (unit : List UInt8) :
    InStep False fun (escaped : EscapedSource) (plain : PlainSource) =>
      escaped.ValidIn unit ∧ escaped.payload = plain where
  position_eq := by
    rintro escaped plain ⟨_, rfl⟩
    rfl
  next_related := by
    rintro escaped plain ⟨valid, rfl⟩
    cases next_eq : BitSource.next escaped with
    | none =>
        have unread_eq := valid.unread_eq_nil_iff.mpr next_eq
        have payloadEnds : BitSource.next escaped.payload = none := by
          simp only [payload, unread_eq]
          rfl
        exact Or.inl ⟨rfl, Or.inr payloadEnds⟩
    | some step =>
        obtain ⟨bit, after⟩ := step
        have payloadStep : BitSource.next escaped.payload = some (bit, after.payload) := by
          simp only [payload, valid.unread_next next_eq, valid.position_next next_eq]
          rfl
        exact Or.inr ⟨bit, after, after.payload, rfl, payloadStep, valid.next next_eq, rfl⟩

end CodedVideo.EscapedSource
