import CodedVideo.Proofs.Decoder.Attributed
import CodedVideo.Proofs.Decoder.Blind
import CodedVideo.Proofs.NalUnit.EscapedSource

/-!
# Units that go on

A source of a unit and a source of a longer unit hand out the same bits up to the end of the shorter
one. Where the cut falls behind two zeros, the longer unit may go on with an inserted byte, which
its source passes over with the byte in front of it. So a grammar that never looks ahead gives the
same result on both units, or finds that the shorter one ends too early.
-/

namespace CodedVideo

namespace EscapedSource

/-- The source at the same place of a unit that goes on with `tail`, where an inserted byte that
stands next is still to be passed over. -/
def extend (source : EscapedSource) (tail : List UInt8) : EscapedSource :=
  { source with unit := source.unit ++ tail, rest := source.rest ++ tail }

variable {source after : EscapedSource} {bit : Bool} {byte : UInt8} {rest : List UInt8}

/-- In front of the first bit nothing is to be passed over. -/
theorem passEscape_extend_ofUnit (unit tail : List UInt8) :
    ((ofUnit unit).extend tail).passEscape = ofUnit (unit ++ tail) := by
  apply passEscape_eq_self
  intro byte rest _ inserted
  exact Nat.noConfusion inserted.1

/-- Where no zeros are counted nothing is to be passed over. -/
theorem passEscape_extend_of_no_zeros (no_zeros : source.zeros = 0) (tail : List UInt8) :
    (source.extend tail).passEscape = source.extend tail := by
  apply passEscape_eq_self
  intro byte rest _ inserted
  exact Nat.noConfusion (no_zeros.symm.trans inserted.1)

/-- Passing over an inserted byte of the shorter unit first changes nothing. -/
theorem passEscape_extend_passEscape (source : EscapedSource) (tail : List UInt8) :
    (source.passEscape.extend tail).passEscape = (source.extend tail).passEscape := by
  rcases source.passEscape_cases with ⟨unchanged, _⟩ | ⟨byte, rest, rest_eq, inserted, passed⟩
  · rw [unchanged]
  · rw [passed, passEscape_extend_of_no_zeros rfl, passEscape, extend, extend, rest_eq]
    simp only [List.cons_append, if_pos inserted]
    rfl

theorem passEscape_with_pending (source : EscapedSource) (pending : List Bool) :
    ({ source with pending } : EscapedSource).passEscape = { source.passEscape with pending } := by
  rcases source with ⟨unit, _ | ⟨byte, rest⟩, loaded, escapes, zeros, waiting⟩
  · rfl
  · simp only [passEscape]
    split <;> rfl

/-- Passing over an inserted byte leaves the position. -/
theorem position_passEscape (source : EscapedSource) :
    BitSource.position source.passEscape = BitSource.position source := by
  rcases source.passEscape_cases with ⟨unchanged, _⟩ | ⟨byte, rest, _, _, passed⟩
  · rw [unchanged]
  · rw [passed]
    simp only [BitSource.position, advance, Nat.add_sub_add_right]

/-- Loading a byte in the longer unit loads it in the shorter one. -/
theorem load_extend (source : EscapedSource) (byte : UInt8) (rest tail : List UInt8) :
    (source.extend tail).load byte (rest ++ tail) =
      ((source.load byte rest).extend tail).passEscape := by
  rw [load, load, passEscape_extend_passEscape]
  rfl

/-- A step in the shorter unit is one in the longer unit. -/
theorem Valid.next_extend (valid : source.Valid)
    (next_eq : BitSource.next source = some (bit, after)) (tail : List UInt8) :
    BitSource.next (source.extend tail).passEscape =
      some (bit, (after.extend tail).passEscape) := by
  rcases next_cases next_eq with ⟨pending, pending_eq, rfl⟩ |
    ⟨pending_eq, byte, rest, pending, rest_eq, bits_eq, rfl⟩
  · have waiting : (source.extend tail).passEscape.pending = bit :: pending := by
      rw [passEscape_pending]
      exact pending_eq
    rw [next_of_pending waiting, ← passEscape_with_pending]
    rfl
  · -- The byte that is loaded next is no inserted one, in the longer unit neither.
    have longerRest : (source.extend tail).rest = byte :: (rest ++ tail) := by
      rw [extend, rest_eq, List.cons_append]
    have settled : (source.extend tail).Settled := by
      intro other others others_eq
      rw [longerRest] at others_eq
      rw [← (List.cons.inj others_eq).1]
      exact valid.settled byte rest rest_eq
    have noneWait : (source.extend tail).pending = [] := pending_eq
    rw [passEscape_eq_self settled, next_of_rest_cons noneWait longerRest bits_eq, load_extend,
      ← passEscape_with_pending]
    rfl

/-- The bits of a unit are the first ones of every longer unit. -/
theorem inStep_extend (tail : List UInt8) :
    InStep True fun first second : EscapedSource =>
      first.Valid ∧ second = (first.extend tail).passEscape where
  position_eq := by
    rintro first second ⟨_, rfl⟩
    rw [position_passEscape]
    rfl
  next_related := by
    rintro first second ⟨valid, rfl⟩
    cases next_eq : BitSource.next first with
    | none => exact Or.inl ⟨rfl, Or.inl trivial⟩
    | some step =>
        obtain ⟨bit, after⟩ := step
        exact Or.inr ⟨bit, after, (after.extend tail).passEscape, rfl,
          valid.next_extend next_eq tail, valid.next next_eq, rfl⟩

end EscapedSource

/-- What a parser finds in a unit it finds in every longer unit, unless it reports by `truncation`
that the unit ends too early. -/
def IgnoresLaterBytes {ε α : Type} (truncation : String → Nat → ε)
    (parse : List UInt8 → Except ε α) : Prop :=
  ∀ unit tail, (∃ name offset, parse unit = .error (truncation name offset)) ∨
    parse (unit ++ tail) = parse unit

namespace Decoder

variable {α : Type}

/-- The run of a blind decoder on a unit ends alike on every longer unit. -/
theorem run_extend (decoder : Decoder α) [blind : Blind decoder] (unit tail : List UInt8) :
    RunAlike True
      (fun first second : EscapedSource => first.Valid ∧ second = (first.extend tail).passEscape)
      (decoder.run (EscapedReader.ofUnit unit))
      (decoder.run (EscapedReader.ofUnit (unit ++ tail))) := by
  have source_eq := (EscapedSource.passEscape_extend_ofUnit unit tail).symm
  apply decoder.run_alike (fun _ => blind.neverLooksAhead) (EscapedSource.inStep_extend tail)
  exact ⟨⟨EscapedSource.valid_ofUnit unit, source_eq⟩, rfl⟩

/-- What an attributed blind decoder finds in a unit it finds in every longer unit, unless it finds
that the unit ends too early. -/
theorem run_extend_cases (decoder : Decoder α) [Blind decoder] [isAttributed : Attributed decoder]
    (unit tail : List UInt8) :
    (∃ name offset, (decoder.run (EscapedReader.ofUnit unit)).1 =
        .error (.truncated name offset)) ∨
      (decoder.run (EscapedReader.ofUnit (unit ++ tail))).1 =
          (decoder.run (EscapedReader.ofUnit unit)).1 ∧
        (decoder.run (EscapedReader.ofUnit (unit ++ tail))).2.source =
          ((decoder.run (EscapedReader.ofUnit unit)).2.source.extend tail).passEscape := by
  rcases decoder.run_extend unit tail with ⟨result_eq, rests⟩ | ⟨_, error, failed, isEnd⟩
  · exact Or.inr ⟨result_eq.symm, rests.sources.2⟩
  · obtain ⟨name, offset, rfl⟩ :=
      (isAttributed.attributed _ error failed).exists_truncated isEnd
    exact Or.inl ⟨name, offset, failed⟩

theorem ignoresLaterBytes_decodeUnit (decoder : Decoder α) [Blind decoder] [Attributed decoder] :
    IgnoresLaterBytes .truncated decoder.decodeUnit := by
  intro unit tail
  rcases decoder.run_extend_cases unit tail with truncated | ⟨result_eq, _⟩
  · exact Or.inl truncated
  · exact Or.inr result_eq

theorem ignoresLaterBytes_decodeUnitPartly (decoder : Decoder (α × Option Error)) [Blind decoder]
    [Attributed decoder] :
    IgnoresLaterBytes (fun name offset => .failed (.truncated name offset))
      decoder.decodeUnitPartly := by
  intro unit tail
  rcases decoder.ignoresLaterBytes_decodeUnit unit tail with ⟨name, offset, failed⟩ | same
  · left
    exact ⟨name, offset, by simp only [decodeUnitPartly, failed]⟩
  · right
    simp only [decodeUnitPartly, same]

end Decoder

end CodedVideo
