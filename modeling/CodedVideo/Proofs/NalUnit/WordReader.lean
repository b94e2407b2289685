import CodedVideo.NalUnit.Words
import CodedVideo.Proofs.Bits.Buffer
import CodedVideo.Proofs.Bits.InWords
import CodedVideo.Proofs.NalUnit.ReaderCounts

/-!
# Reading escaped units in words

A cursor in an escaped unit keeps in words what a source keeps as numbers and bits. It loads bytes
until the bits of a whole block wait, where the source loads a byte when no bit waits: both pass the
same bits and then wait with the same ones. If the unit ends inside a block, neither has moved.

Main statements: `EscapedCursor.inWords_ofSource`, `EscapedReader.session_inWords` and
`EscapedReader.run_inWords`.
-/

namespace CodedVideo

open Emulation (zeroRun zeroRunInByte)

/-! ## Zero runs -/

namespace Emulation

/-- A number as a byte that stays at its greatest value. -/
def capInByte (zeros : Nat) : UInt8 :=
  UInt8.ofNat (min zeros 255)

theorem toNat_capInByte (zeros : Nat) : (capInByte zeros).toNat = min zeros 255 :=
  UInt8.toNat_ofNat_of_lt' (Nat.lt_of_le_of_lt (Nat.min_le_right _ _) (by decide))

/-- Runs that arm the rule are far below the cap. -/
theorem capInByte_eq_two_iff {zeros : Nat} : capInByte zeros = 2 ↔ zeros = zerosBefore := by
  have two_eq : (2 : UInt8).toNat = 2 := rfl
  rw [← UInt8.toNat_inj, toNat_capInByte, two_eq, zerosBefore]
  omega

theorem zeroRunInByte_capInByte (zeros : Nat) (byte : UInt8) :
    zeroRunInByte (capInByte zeros) byte = capInByte (zeroRun zeros byte) := by
  have full_eq : (255 : UInt8).toNat = 255 := rfl
  by_cases isZero : byte = 0
  · rw [zeroRunInByte, zeroRun, if_pos isZero, if_pos isZero]
    apply UInt8.toNat_inj.mp
    rw [toNat_capInByte]
    by_cases isFull : 255 ≤ zeros
    · have capped : capInByte zeros = 255 := by
        rw [← UInt8.toNat_inj, toNat_capInByte, full_eq]
        omega
      rw [if_pos capped, full_eq]
      omega
    · have notCapped : ¬ capInByte zeros = 255 := by
        rw [← UInt8.toNat_inj, toNat_capInByte, full_eq]
        omega
      have one_eq : (1 : UInt8).toNat = 1 := rfl
      rw [if_neg notCapped, UInt8.toNat_add, toNat_capInByte, one_eq]
      omega
  · rw [zeroRunInByte, zeroRun, if_neg isZero, if_neg isZero]
    rfl

end Emulation

/-! ## Loading ahead -/

namespace EscapedSource

theorem passEscape_hold (source : EscapedSource) (pending : List Bool) :
    { source with pending }.passEscape = { source.passEscape with pending } := by
  unfold passEscape
  simp only
  split
  · split <;> rfl
  · rfl

/-- Which bits wait makes no difference to what is loaded. -/
theorem load_hold (source : EscapedSource) (held pending : List Bool) (byte : UInt8)
    (rest : List UInt8) :
    ({ ({ source with pending := held } : EscapedSource).load byte rest with pending } :
      EscapedSource) = { source.load byte rest with pending } := by
  rw [load, load, advance, advance]
  exact congrArg (fun passed : EscapedSource => { passed with pending })
    (passEscape_hold (source.advance rest source.escapes (zeroRun source.zeros byte)) held)

/-- The source behind a byte of the payload that is loaded behind the bits that wait. -/
def loadBehind (source : EscapedSource) (byte : UInt8) (rest : List UInt8) : EscapedSource :=
  { source.load byte rest with pending := source.pending ++ Bits.ofByte byte }

/-- Bits that wait are taken without loading anything. -/
theorem take_of_le {source : EscapedSource} {count : Nat} (isHeld : count ≤ source.pending.length) :
    BitSource.take count source =
      some (source.pending.take count, { source with pending := source.pending.drop count }) := by
  induction count generalizing source with
  | zero => rfl
  | succ count inductionHypothesis =>
      obtain ⟨bit, pending, pending_eq⟩ :=
        List.exists_cons_of_length_pos (Nat.lt_of_lt_of_le (Nat.succ_pos count) isHeld)
      rw [pending_eq, List.length_cons] at isHeld
      have following :=
        @inductionHypothesis { source with pending } (Nat.le_of_succ_le_succ isHeld)
      rw [BitSource.take, next_of_pending pending_eq, pending_eq]
      simp only [following]
      rfl

/-- If fewer bits wait than are taken and no byte is left to load, the data ends. -/
theorem take_of_rest_nil {source : EscapedSource} {count : Nat}
    (isShort : source.pending.length < count) (rest_eq : source.rest = []) :
    BitSource.take count source = none := by
  induction count generalizing source with
  | zero => exact absurd isShort (Nat.not_lt_zero _)
  | succ count inductionHypothesis =>
      cases pending_eq : source.pending with
      | nil => rw [BitSource.take, next_of_rest_nil pending_eq rest_eq]
      | cons bit pending =>
          rw [pending_eq, List.length_cons] at isShort
          have following :=
            @inductionHypothesis { source with pending } (Nat.lt_of_succ_lt_succ isShort) rest_eq
          rw [BitSource.take, next_of_pending pending_eq]
          simp only [following]

/-- If fewer bits wait than are taken, the next byte may be loaded at once. -/
theorem take_of_rest_cons {source : EscapedSource} {count : Nat}
    (isShort : source.pending.length < count) {byte : UInt8} {rest : List UInt8}
    (rest_eq : source.rest = byte :: rest) :
    BitSource.take count source = BitSource.take count (source.loadBehind byte rest) := by
  induction count generalizing source with
  | zero => exact absurd isShort (Nat.not_lt_zero _)
  | succ count inductionHypothesis =>
      cases pending_eq : source.pending with
      | nil =>
          obtain ⟨bit, others, bits_eq, _⟩ := Bits.exists_ofByte_eq_cons byte
          have held_eq : (source.loadBehind byte rest).pending = bit :: others := by
            rw [loadBehind, pending_eq, bits_eq]
            rfl
          rw [BitSource.take, BitSource.take, next_of_rest_cons pending_eq rest_eq bits_eq,
            next_of_pending held_eq]
          rfl
      | cons bit pending =>
          rw [pending_eq, List.length_cons] at isShort
          have following :=
            @inductionHypothesis { source with pending } (Nat.lt_of_succ_lt_succ isShort) rest_eq
          have held_eq : (source.loadBehind byte rest).pending =
              bit :: (pending ++ Bits.ofByte byte) := by
            rw [loadBehind, pending_eq]
            rfl
          have behind_eq : ({ source with pending } : EscapedSource).loadBehind byte rest =
              { source.loadBehind byte rest with pending := pending ++ Bits.ofByte byte } :=
            load_hold source pending (pending ++ Bits.ofByte byte) byte rest
          rw [BitSource.take, BitSource.take, next_of_pending pending_eq, next_of_pending held_eq]
          simp only
          rw [following, behind_eq]

end EscapedSource

/-! ## Cursors -/

namespace EscapedCursor

/-- The cursor at the place of a source. -/
def ofSource (source : EscapedSource) : EscapedCursor where
  data := source.unit.toArray
  loaded := source.loaded
  buffer := BitBuffer.ofBits source.pending
  zeros := Emulation.capInByte source.zeros
  escapes := source.escapes

theorem toNat_count_ofSource {source : EscapedSource} (fits : source.pending.length < 64) :
    (ofSource source).buffer.count.toNat = source.pending.length :=
  BitBuffer.toNat_count_ofBits fits

/-- Bits are missing where fewer wait than a block has. -/
theorem isMissing_iff {source : EscapedSource} (fits : source.pending.length < 64) {width : UInt8} :
    (ofSource source).buffer.count < width ↔ source.pending.length < width.toNat := by
  rw [UInt8.lt_iff_toNat_lt, toNat_count_ofSource fits]

/-- The bytes that are not loaded yet stand behind those that are. -/
def RestIsThere (source : EscapedSource) : Prop :=
  source.rest = source.unit.drop source.loaded

theorem getElem?_data {source : EscapedSource} (isThere : RestIsThere source) :
    (ofSource source).data[(ofSource source).loaded]? = source.rest.head? := by
  rw [isThere, List.head?_drop]
  exact List.getElem?_toArray

theorem RestIsThere.advance {source : EscapedSource} (isThere : RestIsThere source) {byte : UInt8}
    {rest : List UInt8} (rest_eq : source.rest = byte :: rest) (escapes zeros : Nat) :
    RestIsThere (source.advance rest escapes zeros) := by
  have drop_eq := isThere.symm.trans rest_eq
  simp only [RestIsThere, EscapedSource.advance]
  rw [← List.drop_drop, drop_eq]
  rfl

theorem RestIsThere.passEscape {source : EscapedSource} (isThere : RestIsThere source) :
    RestIsThere source.passEscape := by
  rcases source.passEscape_cases with ⟨unchanged, _⟩ | ⟨byte, rest, rest_eq, _, passed⟩
  · rwa [unchanged]
  · rw [passed]
    exact isThere.advance rest_eq _ _

theorem passEscape_ofSource {source : EscapedSource} (isThere : RestIsThere source) :
    (ofSource source).passEscape = ofSource source.passEscape := by
  have armed_iff : (ofSource source).zeros = 2 ↔ source.zeros = Emulation.zerosBefore :=
    Emulation.capInByte_eq_two_iff
  unfold passEscape EscapedSource.passEscape
  simp only [getElem?_data isThere, armed_iff]
  cases source.rest with
  | nil => simp
  | cons byte rest =>
      simp only [List.head?_cons, Option.some.injEq]
      split <;> rfl

theorem RestIsThere.loadBehind {source : EscapedSource} (isThere : RestIsThere source) {byte : UInt8}
    {rest : List UInt8} (rest_eq : source.rest = byte :: rest) :
    RestIsThere (source.loadBehind byte rest) :=
  (isThere.advance rest_eq _ _).passEscape

/-- A cursor loads the byte that the source loads, behind the bits that wait. -/
theorem loadByte_ofSource {source : EscapedSource} (isThere : RestIsThere source)
    (fits : source.pending.length + 8 < 64) :
    (ofSource source).loadByte =
      match source.rest with
      | [] => none
      | byte :: rest => some (ofSource (source.loadBehind byte rest)) := by
  unfold loadByte
  rw [getElem?_data isThere]
  cases rest_eq : source.rest with
  | nil => rfl
  | cons byte rest =>
      have isByte : byte.toUInt64.toNat = Bits.toNat (Bits.ofByte byte) := by
        rw [UInt8.toNat_toUInt64, Bits.ofByte, Bits.toNat_ofNat]
        exact (Nat.mod_eq_of_lt byte.toNat_lt).symm
      have buffer_eq : (ofSource source).buffer.push byte.toUInt64 8 =
          BitBuffer.ofBits (source.pending ++ Bits.ofByte byte) := by
        apply BitBuffer.push_ofBits
        · rwa [Bits.length_ofByte]
        · exact isByte
        · exact (Bits.length_ofByte byte).symm
      have zeros_eq := Emulation.zeroRunInByte_capInByte source.zeros byte
      let advanced : EscapedSource :=
        { source.advance rest source.escapes (zeroRun source.zeros byte) with
          pending := source.pending ++ Bits.ofByte byte }
      have isAdvanced : RestIsThere advanced := isThere.advance rest_eq source.escapes 0
      have behind_eq : source.loadBehind byte rest = advanced.passEscape :=
        (EscapedSource.passEscape_hold _ _).symm
      simp only [List.head?_cons, buffer_eq]
      rw [behind_eq, ← passEscape_ofSource isAdvanced]
      simp only [ofSource, zeros_eq, advanced, EscapedSource.advance]

/-- A buffer that is filled up to a block: it ends up with the bits of the source from which the same
block is taken, or the unit ends in front of the end of the block. -/
theorem refill_ofSource {width : UInt8} (fits : width.toNat ≤ 32) {missing : Nat}
    {source : EscapedSource} (isThere : RestIsThere source)
    (covered : width.toNat ≤ source.pending.length + 8 * missing)
    (held_le : source.pending.length ≤ width.toNat + 7) :
    ((ofSource source).refill width = none ∧ BitSource.take width.toNat source = none) ∨
      ∃ filled, (ofSource source).refill width = some (ofSource filled) ∧
        width.toNat ≤ filled.pending.length ∧ filled.pending.length ≤ width.toNat + 7 ∧
          BitSource.take width.toNat source = BitSource.take width.toNat filled := by
  have isMissing_iff : (ofSource source).buffer.count < width ↔
      source.pending.length < width.toNat := isMissing_iff (by omega)
  induction missing generalizing source with
  | zero =>
      rw [refill, if_neg (mt isMissing_iff.mp (by omega))]
      exact Or.inr ⟨source, rfl, by omega, held_le, rfl⟩
  | succ missing inductionHypothesis =>
      by_cases isShort : source.pending.length < width.toNat
      · have load_eq := loadByte_ofSource isThere (by omega)
        rw [refill, if_pos (isMissing_iff.mpr isShort)]
        cases rest_eq : source.rest with
        | nil =>
            rw [rest_eq] at load_eq
            split
            · exact Or.inl ⟨rfl, EscapedSource.take_of_rest_nil isShort rest_eq⟩
            · next loaded loaded_eq =>
                rw [load_eq] at loaded_eq
                cases loaded_eq
        | cons byte rest =>
            rw [rest_eq] at load_eq
            have length_eq : (source.loadBehind byte rest).pending.length =
                source.pending.length + 8 := by
              rw [EscapedSource.loadBehind, List.length_append, Bits.length_ofByte]
            split
            · next loaded_eq =>
                rw [load_eq] at loaded_eq
                cases loaded_eq
            · next loaded loaded_eq =>
                rw [load_eq] at loaded_eq
                cases loaded_eq
                rw [EscapedSource.take_of_rest_cons isShort rest_eq]
                refine inductionHypothesis (isThere.loadBehind rest_eq) (by omega) (by omega) ?_
                exact EscapedCursor.isMissing_iff (by omega)
      · rw [refill, if_neg (mt isMissing_iff.mp isShort)]
        exact Or.inr ⟨source, rfl, Nat.le_of_not_lt isShort, held_le, rfl⟩

/-- A block is taken as its bits are. -/
theorem takeBlock_ofSource {source : EscapedSource} (valid : source.Valid) {width : UInt8}
    (fits : width.toNat ≤ 32) :
    BlockSource.takeBlock width (ofSource source) =
      (BitSource.take width.toNat source).map fun step =>
        (UInt32.ofNat (Bits.toNat step.1), ofSource step.2) := by
  by_cases isNothing : width = 0
  · rw [isNothing]
    rfl
  · have short := valid.pending_short
    have covered : width.toNat ≤ source.pending.length + 8 * 4 := by omega
    have filledBy := refill_ofSource fits valid.rest_eq covered (by omega)
    simp only [BlockSource.takeBlock, if_neg isNothing]
    rcases filledBy with ⟨refill_eq, take_eq⟩ | ⟨filled, refill_eq, isHeld, held_le, take_eq⟩
    · rw [refill_eq, take_eq]
      rfl
    · have front_length : (filled.pending.take width.toNat).length = width.toNat :=
        List.length_take_of_le isHeld
      have buffer_eq : (ofSource filled).buffer.take width =
          (UInt64.ofNat (Bits.toNat (filled.pending.take width.toNat)),
            BitBuffer.ofBits (filled.pending.drop width.toNat)) := by
        rw [← BitBuffer.take_ofBits _ front_length.symm, List.take_append_drop, ofSource]
        rw [front_length, List.length_drop]
        omega
      rw [refill_eq, take_eq, EscapedSource.take_of_le isHeld]
      simp only [buffer_eq, Option.map_some]
      rw [UInt64.toUInt32_ofNat']
      rfl

/-! ## Single bits -/

/-- A cursor hands out the bit that the source hands out. -/
theorem next_ofSource {source : EscapedSource} (valid : source.Valid) :
    BitSource.next (ofSource source) =
      (BitSource.next source).map fun step => (step.1, ofSource step.2) := by
  have taken := takeBlock_ofSource valid (by decide : (1 : UInt8).toNat ≤ 32)
  have one_eq : (1 : UInt8).toNat = 1 := rfl
  simp only [BitSource.next] at taken ⊢
  rw [taken, one_eq, BitSource.take]
  cases next_eq : BitSource.next source with
  | none =>
      simp only [BitSource.next] at next_eq
      rw [next_eq]
      rfl
  | some step =>
      obtain ⟨bit, rest⟩ := step
      simp only [BitSource.next] at next_eq
      rw [next_eq]
      cases bit <;> rfl

theorem position_ofSource {source : EscapedSource} (short : source.pending.length < 8) :
    BitSource.position (ofSource source) = BitSource.position source := by
  have count_eq := toNat_count_ofSource (Nat.lt_trans short (by decide))
  simp only [BitSource.position, position, count_eq]
  rfl

/-- A source of a unit is kept by the cursor at its place. -/
theorem inWords_ofSource (unit : List UInt8) :
    SourceInWords (EscapedSource.ValidIn unit) ofSource where
  valid_next := EscapedSource.ValidIn.next
  position_eq := fun valid => position_ofSource valid.pending_short
  next_eq := fun valid => next_ofSource valid.toValid
  takeBlock_eq := fun valid => takeBlock_ofSource valid.toValid

/-! ### Bits that are left -/

theorem count_of_loadByte {cursor rest : EscapedCursor} (load_eq : cursor.loadByte = some rest) :
    rest.buffer.count = cursor.buffer.count + 8 := by
  unfold loadByte at load_eq
  split at load_eq
  · cases load_eq
  · cases load_eq
    unfold passEscape
    split <;> rfl

/-- For a single bit at most one byte is loaded. -/
theorem bitsLeft_of_refill_one {cursor filled : EscapedCursor}
    (refill_eq : cursor.refill 1 = some filled) :
    0 < filled.buffer.count.toNat ∧ filled.bitsLeft ≤ cursor.bitsLeft := by
  have one_eq : (1 : UInt8).toNat = 1 := rfl
  rw [refill] at refill_eq
  split at refill_eq
  · next isEmpty =>
      rw [UInt8.lt_iff_toNat_lt, one_eq, Nat.lt_one_iff] at isEmpty
      split at refill_eq
      · cases refill_eq
      · next rest load_eq =>
          obtain ⟨data_eq, isInside, isBehind⟩ := lt_of_loadByte load_eq
          have count_eq : rest.buffer.count = 8 := by
            rw [count_of_loadByte load_eq, ← UInt8.toNat_inj, UInt8.toNat_add, isEmpty]
            rfl
          have isFilled : ¬ rest.buffer.count < 1 := by
            rw [count_eq]
            decide
          have eight_eq : (8 : UInt8).toNat = 8 := rfl
          rw [refill, if_neg isFilled] at refill_eq
          cases refill_eq
          simp only [bitsLeft, count_eq, data_eq, isEmpty, eight_eq]
          omega
  · next notEmpty =>
      rw [UInt8.lt_iff_toNat_lt, one_eq] at notEmpty
      cases refill_eq
      exact ⟨by omega, Nat.le_refl _⟩

instance : FiniteSource EscapedCursor where
  bitsLeft_lt {cursor after bit} next_eq := by
    have notNothing : ¬ (1 : UInt8) = 0 := by decide
    have one_eq : (1 : UInt8).toNat = 1 := rfl
    simp only [BitSource.next, BlockSource.takeBlock, if_neg notNothing] at next_eq
    cases refill_eq : cursor.refill 1 with
    | none =>
        rw [refill_eq] at next_eq
        cases next_eq
    | some filled =>
        rw [refill_eq] at next_eq
        cases next_eq
        obtain ⟨isThere, noMore⟩ := bitsLeft_of_refill_one refill_eq
        have count_eq : (filled.buffer.count - 1).toNat = filled.buffer.count.toNat - 1 := by
          rw [UInt8.toNat_sub_of_le, one_eq]
          exact UInt8.le_iff_toNat_le.mpr isThere
        simp only [BitSource.bitsLeft, bitsLeft, BitBuffer.take, count_eq] at noMore ⊢
        omega

end EscapedCursor

/-! ## Readers -/

namespace EscapedReader

/-- The cursor of a reader, with its fault. -/
abbrev cursor : EscapedReader → Reader EscapedCursor :=
  Reader.inWords EscapedCursor.ofSource

/-- A cursor in front of the first bit shows the same in every session and ends where the reader
does. -/
theorem session_inWords (unit : List UInt8) (session : Session) :
    session.run { source := { data := unit.toArray } : Reader EscapedCursor } =
      ((session.run (ofUnit unit)).1, cursor (session.run (ofUnit unit)).2) := by
  have started : (ofUnit unit).source.ValidIn unit := EscapedSource.validIn_ofUnit unit
  exact (EscapedCursor.inWords_ofSource unit).session_eq started session

/-- A decoder gives the same result from a cursor in front of the first bit. -/
theorem run_inWords (unit : List UInt8) {α : Type} (decoder : Decoder α) :
    decoder.run { source := { data := unit.toArray } : Reader EscapedCursor } =
      ((decoder.run (ofUnit unit)).1, cursor (decoder.run (ofUnit unit)).2) := by
  have started : (ofUnit unit).source.ValidIn unit := EscapedSource.validIn_ofUnit unit
  exact (EscapedCursor.inWords_ofSource unit).run_eq started decoder

/-- Behind any actions a block is read as its bits are, and no fault moves the cursor. -/
theorem readBlock_inWords (unit : List UInt8) (actions : List ReaderAction) (width : UInt8) :
    let reader := (ReaderHistory.run unit actions).reader
    Reader.readBlock width (cursor reader) =
      ((Reader.readBits width.toNat reader).1.map UInt32.ofNat,
        cursor (Reader.readBits width.toNat reader).2) :=
  (EscapedCursor.inWords_ofSource unit).readBlock_eq
    (ReaderHistory.validIn_run unit actions).reader width

/-- What a reader shows of its place it shows in words too. -/
theorem counts_inWords {reader : EscapedReader} (valid : reader.source.Valid) :
    (cursor reader).position = reader.position ∧ (cursor reader).bitsLeft = reader.bitsLeft ∧
      (cursor reader).source.loaded = reader.bytesRead ∧
        (cursor reader).source.bitsReadOfByte.toNat = reader.bitsReadOfByte ∧
          (cursor reader).source.escapes = reader.escapesRemoved ∧
            (cursor reader).source.isExhausted = reader.atEnd := by
  have count_eq : (cursor reader).source.buffer.count.toNat = reader.source.pending.length :=
    EscapedCursor.toNat_count_ofSource (Nat.lt_trans valid.pending_short (by decide))
  have nothing_iff : (cursor reader).source.buffer.count = 0 ↔ reader.source.pending = [] := by
    rw [← UInt8.toNat_inj, count_eq]
    exact List.length_eq_zero_iff
  have rest_length := congrArg List.length valid.rest_eq
  rw [List.length_drop] at rest_length
  have size_eq : (cursor reader).source.data.size = reader.source.unit.length := List.size_toArray
  have loaded_le := valid.loaded_le
  have short := valid.pending_short
  refine ⟨EscapedCursor.position_ofSource valid.pending_short, ?_, rfl, ?_, rfl, ?_⟩
  · simp only [Reader.bitsLeft, BitSource.bitsLeft, EscapedCursor.bitsLeft, count_eq, size_eq,
      rest_length]
    rfl
  · have eight_eq : (8 : UInt8).toNat = 8 := rfl
    simp only [EscapedCursor.bitsReadOfByte, bitsReadOfByte, List.isEmpty_iff]
    by_cases nothing : reader.source.pending = []
    · rw [if_pos (nothing_iff.mpr nothing), if_pos nothing]
      rfl
    · rw [if_neg (mt nothing_iff.mp nothing), if_neg nothing, UInt8.toNat_sub_of_le, eight_eq,
        count_eq]
      rw [UInt8.le_iff_toNat_le, count_eq, eight_eq]
      exact Nat.le_of_lt short
  · rw [Bool.eq_iff_iff, EscapedCursor.isExhausted, Bool.and_eq_true, beq_iff_eq, nothing_iff,
      decide_eq_true_eq, size_eq, Reader.atEnd, BitSource.atEnd, Option.isNone_iff_eq_none,
      EscapedSource.next_eq_none_iff, ← List.length_eq_zero_iff (l := reader.source.rest)]
    refine and_congr_right fun _ => ?_
    have loaded_eq : (cursor reader).source.loaded = reader.source.loaded := rfl
    omega

end EscapedReader

end CodedVideo
