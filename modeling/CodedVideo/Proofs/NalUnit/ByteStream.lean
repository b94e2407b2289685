import CodedVideo.NalUnit.ByteStream

/-!
# Units in byte streams

A byte stream is scanned with two things in hand, the reversed bytes since the last cut and the
number of zeros at their end. The second is a function of the first, so a start code ends exactly
where the reversed bytes open with one. What the scan cuts off is therefore what stands between the
start codes, whatever zeros stand in front of these, and it is what the search for start codes finds
between them.

Main statements: `pieces_eq_cut_of_findStartCode`, `split_framable`.
-/

namespace CodedVideo

/-- The payload ends in a byte other than zero. -/
def Emulation.Terminated (payload : List UInt8) : Prop :=
  ∃ last, payload.getLast? = some last ∧ last ≠ 0

namespace ByteStream

open Emulation (Terminated zeroRun)

/-! ## Framable units -/

/-- A start code of three bytes stands in the bytes; one of four bytes ends in one of three. -/
def HoldsStartCode (bytes : List UInt8) : Prop :=
  [0, 0, 1] <:+: bytes

instance (bytes : List UInt8) : Decidable (HoldsStartCode bytes) :=
  inferInstanceAs (Decidable ([0, 0, 1] <:+: bytes))

/-- The bytes can stand in a byte stream as one unit: there are some, they end in a byte other than
zero, and they hold no start code. -/
structure Framable (unit : List UInt8) : Prop where
  ne_nil : unit ≠ []
  terminated : Terminated unit
  noStartCode : ¬ HoldsStartCode unit

/-- The byte stream of units, each behind a start code of three bytes and a given number of zeros in
front of that. -/
def frameBehindZeros (units : List (Nat × List UInt8)) : List UInt8 :=
  units.flatMap fun unit => List.replicate unit.1 0 ++ [0, 0, 1] ++ unit.2

/-- A byte stream with start codes of four bytes has one zero in front of each code of three. -/
theorem join_eq (units : List (List UInt8)) :
    join units = frameBehindZeros (units.map fun unit => (1, unit)) := by
  rw [frameBehindZeros, List.flatMap_map]
  rfl

/-! ## Reversed pieces -/

/-- The number of zeros at the end of a reversed piece. -/
def zerosAtEnd (piece : List UInt8) : Nat :=
  (piece.takeWhile (· == 0)).length

theorem zeroRun_zerosAtEnd (byte : UInt8) (piece : List UInt8) :
    zeroRun (zerosAtEnd piece) byte = zerosAtEnd (byte :: piece) := by
  rw [zeroRun, zerosAtEnd, zerosAtEnd, List.takeWhile_cons]
  by_cases isZero : byte = 0 <;> simp [isZero]

theorem zerosAtEnd_le (piece : List UInt8) : zerosAtEnd piece ≤ piece.length :=
  (List.takeWhile_prefix _).length_le

/-- The zeros at the end of a piece are those that its reversed bytes open with. -/
theorem le_zerosAtEnd_iff (zeros : Nat) (piece : List UInt8) :
    zeros ≤ zerosAtEnd piece ↔ List.replicate zeros 0 <+: piece := by
  induction piece generalizing zeros with
  | nil => rw [List.prefix_nil, List.replicate_eq_nil_iff, zerosAtEnd, List.takeWhile_nil,
      List.length_nil, Nat.le_zero]
  | cons byte piece inductionHypothesis =>
      rcases zeros with _ | zeros
      · simp
      · rw [← zeroRun_zerosAtEnd, zeroRun, List.replicate_succ, List.cons_prefix_cons,
          ← inductionHypothesis]
        split
        · next isZero => simp [isZero]
        · next notZero => simp [Ne.symm notZero]

/-- A byte ends a start code if the reversed piece opens with one. -/
theorem endsStartCode_iff (byte : UInt8) (piece : List UInt8) :
    (byte = 1 ∧ 2 ≤ zerosAtEnd piece) ↔ [1, 0, 0] <+: byte :: piece := by
  rw [List.cons_prefix_cons, le_zerosAtEnd_iff, eq_comm]
  rfl

theorem holdsStartCode_reverse (piece : List UInt8) :
    HoldsStartCode piece.reverse ↔ [1, 0, 0] <:+: piece := by
  rw [HoldsStartCode, ← List.reverse_infix, List.reverse_reverse]
  rfl

/-- Zeros at the end of a piece bring no start code. -/
theorem not_infix_zeros_append {piece : List UInt8} (free : ¬ [1, 0, 0] <:+: piece)
    (zeros : Nat) : ¬ [1, 0, 0] <:+: List.replicate zeros 0 ++ piece := by
  induction zeros with
  | zero => exact free
  | succ zeros inductionHypothesis =>
      rw [List.replicate_succ, List.cons_append, List.infix_cons_iff]
      rintro (isPrefix | isInfix)
      · exact absurd (List.cons_prefix_cons.mp isPrefix).1 (by decide)
      · exact inductionHypothesis isInfix

/-- Zeros at the end of a piece are trimmed off it. -/
theorem trimReversed_zeros_append (zeros : Nat) (piece : List UInt8) :
    trimReversed (List.replicate zeros 0 ++ piece) = trimReversed piece := by
  rw [trimReversed, List.dropWhile_append_of_pos, ← trimReversed]
  simp

/-- Trimming takes the zeros at the end of a piece, also where some of them are gone already. -/
theorem trimReversed_drop {count : Nat} {piece : List UInt8} (few : count ≤ zerosAtEnd piece) :
    trimReversed (piece.drop count) = trimReversed piece := by
  obtain ⟨kept, rfl⟩ := (le_zerosAtEnd_iff count piece).mp few
  rw [List.drop_left' List.length_replicate, trimReversed_zeros_append]

/-- Nothing is trimmed off a unit that ends in a byte other than zero. -/
theorem trimReversed_reverse {unit : List UInt8} (terminated : Terminated unit) :
    trimReversed unit.reverse = unit := by
  obtain ⟨last, ends, notZero⟩ := terminated
  obtain ⟨others, rfl⟩ := List.getLast?_eq_some_iff.mp ends
  have kept : ¬ (last == 0) = true := mt eq_of_beq notZero
  rw [List.reverse_append, List.reverse_singleton, List.singleton_append, trimReversed,
    List.dropWhile_cons, if_neg kept, List.reverse_cons, List.reverse_reverse]

/-- What is left of a piece without start codes can stand in a byte stream. -/
theorem framable_trimReversed {piece : List UInt8} (free : ¬ [1, 0, 0] <:+: piece)
    (isThere : trimReversed piece ≠ []) : Framable (trimReversed piece) := by
  rw [trimReversed] at isThere ⊢
  have kept : piece.dropWhile (· == 0) ≠ [] := mt List.reverse_eq_nil_iff.mpr isThere
  refine ⟨isThere, ⟨(piece.dropWhile (· == 0)).head kept, ?_, ?_⟩, ?_⟩
  · rw [List.getLast?_reverse, List.head?_eq_some_head kept]
  · have notZero := List.head_dropWhile_not (· == 0) kept
    simpa using notZero
  · rw [holdsStartCode_reverse]
    exact fun isInfix => free (isInfix.trans (List.dropWhile_suffix _).isInfix)

/-! ## The scan -/

/-- Bytes that bring no start code are added to the piece at hand. -/
theorem piecesAfter_append {piece bytes : List UInt8}
    (free : ¬ [1, 0, 0] <:+: bytes.reverse ++ piece) (rest : List UInt8) :
    piecesAfter (zerosAtEnd piece) piece (bytes ++ rest) =
      piecesAfter (zerosAtEnd (bytes.reverse ++ piece)) (bytes.reverse ++ piece) rest := by
  induction bytes generalizing piece with
  | nil => rfl
  | cons byte bytes inductionHypothesis =>
      rw [List.reverse_cons, List.append_assoc, List.singleton_append] at free ⊢
      have noCode : ¬ (byte = 1 ∧ 2 ≤ zerosAtEnd piece) := by
        rw [endsStartCode_iff]
        exact fun isPrefix =>
          free (isPrefix.isInfix.trans (List.suffix_append _ _).isInfix)
      rw [List.cons_append, piecesAfter, if_neg noCode, zeroRun_zerosAtEnd,
        inductionHypothesis free]

/-- Bytes without a start code are a piece by themselves. -/
theorem piecesAfter_nil_append {bytes : List UInt8} (free : ¬ [1, 0, 0] <:+: bytes.reverse)
    (rest : List UInt8) :
    piecesAfter 0 [] (bytes ++ rest) =
      piecesAfter (zerosAtEnd bytes.reverse) bytes.reverse rest := by
  have freeBehindNone : ¬ [1, 0, 0] <:+: bytes.reverse ++ [] := by rwa [List.append_nil]
  have added := piecesAfter_append freeBehindNone rest
  rwa [List.append_nil] at added

/-- Zeros are added to the piece at hand. -/
theorem piecesAfter_zeros_append {piece : List UInt8} (free : ¬ [1, 0, 0] <:+: piece) (zeros : Nat)
    (rest : List UInt8) :
    piecesAfter (zerosAtEnd piece) piece (List.replicate zeros 0 ++ rest) =
      piecesAfter (zerosAtEnd (List.replicate zeros 0 ++ piece)) (List.replicate zeros 0 ++ piece)
        rest := by
  have stillFree := not_infix_zeros_append free zeros
  rw [← List.reverse_replicate] at stillFree
  rw [piecesAfter_append stillFree, List.reverse_replicate]

/-- A start code ends the piece at hand, from which the zeros in front of the code are trimmed. -/
theorem piecesAfter_startCode {piece : List UInt8} (free : ¬ [1, 0, 0] <:+: piece) (zeros : Nat)
    (rest : List UInt8) :
    piecesAfter (zerosAtEnd piece) piece (List.replicate zeros 0 ++ [0, 0, 1] ++ rest) =
      trimReversed piece :: piecesAfter 0 [] rest := by
  have code_eq : List.replicate zeros (0 : UInt8) ++ [0, 0, 1] ++ rest =
      List.replicate (zeros + 2) 0 ++ 1 :: rest := by
    rw [← List.replicate_append_replicate, List.append_assoc, List.append_assoc]
    rfl
  have armed : 2 ≤ zerosAtEnd (List.replicate (zeros + 2) 0 ++ piece) := by
    rw [zerosAtEnd, List.takeWhile_append_of_pos (by simp), List.length_append,
      List.length_replicate]
    omega
  rw [code_eq, piecesAfter_zeros_append free, piecesAfter, if_pos ⟨rfl, armed⟩,
    trimReversed_zeros_append]

/-- Behind the piece at hand, a byte stream of framable units consists of these. -/
theorem piecesAfter_frameBehindZeros {units : List (Nat × List UInt8)}
    (framable : ∀ unit ∈ units, Framable unit.2) {piece : List UInt8}
    (free : ¬ [1, 0, 0] <:+: piece) (zeros : Nat) :
    piecesAfter (zerosAtEnd piece) piece (frameBehindZeros units ++ List.replicate zeros 0) =
      trimReversed piece :: units.map Prod.snd := by
  induction units generalizing piece with
  | nil =>
      have zeros_eq : frameBehindZeros [] ++ List.replicate zeros 0 =
          List.replicate zeros 0 ++ [] := (List.append_nil _).symm
      rw [zeros_eq, piecesAfter_zeros_append free, piecesAfter, trimReversed_zeros_append,
        List.map_nil]
  | cons unit units inductionHypothesis =>
      rw [List.forall_mem_cons] at framable
      have unitFree : ¬ [1, 0, 0] <:+: unit.2.reverse := by
        rw [← holdsStartCode_reverse, List.reverse_reverse]
        exact framable.1.noStartCode
      rw [frameBehindZeros, List.flatMap_cons, List.append_assoc _ unit.2, List.append_assoc,
        piecesAfter_startCode free, List.append_assoc, piecesAfter_nil_append unitFree,
        ← frameBehindZeros, inductionHypothesis framable.2 unitFree,
        trimReversed_reverse framable.1.terminated, List.map_cons]

/-- Every piece that is not empty can stand in a byte stream. -/
theorem framable_of_mem_piecesAfter {piece : List UInt8} (free : ¬ [1, 0, 0] <:+: piece)
    {stream unit : List UInt8} (isPiece : unit ∈ piecesAfter (zerosAtEnd piece) piece stream)
    (isThere : unit ≠ []) : Framable unit := by
  induction stream generalizing piece with
  | nil =>
      rw [piecesAfter, List.mem_singleton] at isPiece
      subst isPiece
      exact framable_trimReversed free isThere
  | cons byte stream inductionHypothesis =>
      rw [piecesAfter] at isPiece
      split at isPiece
      · have noneFree : ¬ [1, 0, 0] <:+: ([] : List UInt8) := by decide
        rcases List.mem_cons.mp isPiece with rfl | isBehind
        · exact framable_trimReversed free isThere
        · exact inductionHypothesis noneFree isBehind
      · next noCode =>
        rw [zeroRun_zerosAtEnd] at isPiece
        refine inductionHypothesis ?_ isPiece
        rw [List.infix_cons_iff, ← endsStartCode_iff]
        exact fun holds => holds.elim noCode free

/-! ## The search for start codes -/

/-- A start code ends with the one that it is found at, and opens with zeros in front of that. -/
theorem startCodeAt_bounds {zeros offset : Nat} (armed : 2 ≤ zeros) (within : zeros ≤ offset) :
    (startCodeAt zeros offset).offset + (startCodeAt zeros offset).length = offset + 1 ∧
      (startCodeAt zeros offset).offset ≤ offset ∧
      offset - (startCodeAt zeros offset).offset ≤ zeros := by
  rw [startCodeAt]
  split <;> simp only <;> omega

/-- The piece at hand goes up to the start code that is found first, and the others stand behind
it. -/
theorem piecesAfter_eq_cut (piece rest : List UInt8) :
    piecesAfter (zerosAtEnd piece) piece rest =
      match startCodeAfter (zerosAtEnd piece) piece.length rest with
      | none => [trimReversed (piece.reverse ++ rest).reverse]
      | some code =>
          trimReversed ((piece.reverse ++ rest).take code.offset).reverse ::
            piecesAfter 0 [] ((piece.reverse ++ rest).drop (code.offset + code.length)) := by
  induction rest generalizing piece with
  | nil => rw [piecesAfter, startCodeAfter, List.append_nil, List.reverse_reverse]
  | cons byte rest inductionHypothesis =>
      rw [piecesAfter, startCodeAfter]
      by_cases ends : byte = 1 ∧ 2 ≤ zerosAtEnd piece
      · obtain ⟨end_eq, offset_le, zeros_le⟩ := startCodeAt_bounds ends.2 (zerosAtEnd_le piece)
        have reverse_length : piece.reverse.length = piece.length := List.length_reverse
        have whole_eq : piece.reverse ++ byte :: rest = piece.reverse ++ [byte] ++ rest :=
          List.append_cons _ _ _
        have front_length : (piece.reverse ++ [byte]).length = piece.length + 1 := by
          rw [List.length_append, reverse_length, List.length_singleton]
        rw [if_pos ends, if_pos ends]
        simp only
        rw [List.take_append_of_le_length (by rwa [reverse_length]),
          List.reverse_take, List.reverse_reverse, reverse_length, trimReversed_drop zeros_le,
          end_eq, whole_eq, List.drop_left' front_length]
      · have whole_eq : (byte :: piece).reverse ++ rest = piece.reverse ++ byte :: rest := by
          rw [List.reverse_cons, List.append_assoc, List.singleton_append]
        have cut_eq := inductionHypothesis (byte :: piece)
        rw [whole_eq, ← zeroRun_zerosAtEnd, List.length_cons] at cut_eq
        rw [if_neg ends, if_neg ends]
        exact cut_eq

/-- The bytes are cut where start codes are searched for and found. -/
theorem pieces_eq_cut_of_findStartCode (bytes : List UInt8) :
    piecesAfter 0 [] bytes =
      match findStartCode bytes 0 with
      | none => [trimReversed bytes.reverse]
      | some code =>
          trimReversed (bytes.take code.offset).reverse ::
            piecesAfter 0 [] (bytes.drop (code.offset + code.length)) :=
  piecesAfter_eq_cut [] bytes

/-! ## Splitting -/

/-- A byte stream is split where its units were put together. -/
theorem split_frameBehindZeros {leading : List UInt8} (noStartCode : ¬ HoldsStartCode leading)
    {units : List (Nat × List UInt8)} (framable : ∀ unit ∈ units, Framable unit.2) (zeros : Nat) :
    split (leading ++ frameBehindZeros units ++ List.replicate zeros 0) = units.map Prod.snd := by
  have free : ¬ [1, 0, 0] <:+: leading.reverse := by
    rwa [← holdsStartCode_reverse, List.reverse_reverse]
  rw [split, List.append_assoc, piecesAfter_nil_append free,
    piecesAfter_frameBehindZeros framable free, List.tail_cons, List.filter_eq_self]
  intro unit isUnit
  obtain ⟨framed, isThere, rfl⟩ := List.mem_map.mp isUnit
  simpa using (framable framed isThere).ne_nil

/-- The units of a byte stream are framable, whatever the stream holds. -/
theorem framable_of_mem_split {stream unit : List UInt8} (isUnit : unit ∈ split stream) :
    Framable unit := by
  obtain ⟨isPiece, isThere⟩ := List.mem_filter.mp isUnit
  have noneFree : ¬ [1, 0, 0] <:+: ([] : List UInt8) := by decide
  refine framable_of_mem_piecesAfter noneFree (List.mem_of_mem_tail isPiece) ?_
  simpa using isThere

/-- Units of a byte stream are found again in a stream with start codes of four bytes. -/
theorem split_join {units : List (List UInt8)} (framable : ∀ unit ∈ units, Framable unit) :
    split (join units) = units := by
  have noneLeading : ¬ HoldsStartCode [] := by decide
  have framableBehind : ∀ unit ∈ units.map fun unit => (1, unit), Framable unit.2 := by
    rwa [List.forall_mem_map]
  have framed := split_frameBehindZeros noneLeading framableBehind 0
  rwa [← join_eq, List.nil_append, List.replicate_zero, List.append_nil, List.map_map,
    Function.comp_def, List.map_id'] at framed

/-- Framable units behind start codes, with any number of zeros in front of each code and at the end
and with any bytes in front that hold no start code, are the units of the byte stream. The units of
any bytes whatsoever are framable, and they are found again in the stream that puts them behind
start codes of four bytes. -/
theorem split_framable :
    (∀ (leading : List UInt8) (units : List (Nat × List UInt8)) (zeros : Nat),
        ¬ HoldsStartCode leading → (∀ unit ∈ units, Framable unit.2) →
          split (leading ++ frameBehindZeros units ++ List.replicate zeros 0) =
            units.map Prod.snd) ∧
      ∀ stream, (∀ unit ∈ split stream, Framable unit) ∧
        split (join (split stream)) = split stream := by
  refine ⟨fun leading units zeros noStartCode framable => ?_, fun stream => ⟨?_, ?_⟩⟩
  · exact split_frameBehindZeros noStartCode framable zeros
  · exact fun unit isUnit => framable_of_mem_split isUnit
  · exact split_join fun unit isUnit => framable_of_mem_split isUnit

/-- Leading bytes that end in zeros, a unit that opens with zeros and a one, a unit behind two zeros
more than its start code has, and zeros at the end. -/
theorem split_framable_zeroRuns :
    split ([7, 0, 0] ++ frameBehindZeros [(0, [0, 1, 0, 0, 2]), (2, [1])] ++
      List.replicate 3 0) = [[0, 1, 0, 0, 2], [1]] :=
  have opensWithZero : Framable [0, 1, 0, 0, 2] :=
    { ne_nil := by decide, terminated := ⟨2, rfl, by decide⟩, noStartCode := by decide }
  have single : Framable [1] :=
    { ne_nil := by decide, terminated := ⟨1, rfl, by decide⟩, noStartCode := by decide }
  split_framable.1 [7, 0, 0] [(0, [0, 1, 0, 0, 2]), (2, [1])] 3 (by decide)
    (by simp [opensWithZero, single])

end ByteStream

end CodedVideo
