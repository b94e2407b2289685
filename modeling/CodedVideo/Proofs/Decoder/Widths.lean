import CodedVideo.Proofs.Bits.Refusals
import CodedVideo.Proofs.Decoder.InStep

/-!
# Widths of the questions of a decoder

A run keeps to the widths of single reads if it asks for no more bits at a time than one read can
move. Which questions a run comes to depends on the answers to those in front, so this is a property
of a decoder and a reader.

Main statement: a run that keeps to the widths is refused none.
-/

namespace CodedVideo

/-- The question is for no more bits than one read can move. -/
def Query.Fits {α : Type} : Query α → Prop
  | bits count => count ≤ 32
  | wideBits count => count ≤ 64
  | _ => True

variable {σ : Type} [BitSource σ]

/-- The answer to a question that fits refuses no width. -/
theorem Query.Fits.neverRefuses {α : Type} {query : Query α} (fits : query.Fits) :
    Reader.NeverRefuses (query.answer : ReadM σ α) := by
  cases query with
  | bits count => exact Reader.NeverRefuses.readBits fits
  | wideBits count => exact Reader.NeverRefuses.readWideBits fits
  | flag => exact Reader.NeverRefuses.readFlag
  | unsigned => exact Reader.NeverRefuses.readUnsigned
  | signed => exact Reader.NeverRefuses.readSigned
  | skip count => exact Reader.NeverRefuses.skip count
  | align => exact Reader.NeverRefuses.align
  | position => exact fun _ unrefused => unrefused
  | hasMoreData => exact fun _ unrefused => unrefused
  | trailingBits => exact Reader.NeverRefuses.readTrailingBits

namespace Decoder

/-! ## Keeping to the widths -/

/-- The entries of a series keep to the widths, up to the one that ends it or fails. -/
def SeriesKeepsWidths {β : Type} (keepsWidths : Nat → Reader σ → Prop)
    (entry : Nat → Reader σ → Except Error (Option β) × Reader σ) : Nat → Reader σ → Prop
  | 0, _ => True
  | bound + 1, reader =>
      ∀ code opened, Reader.readUnsigned reader = (.ok code, opened) →
        keepsWidths code opened ∧
          ∀ value closed, entry code opened = (.ok (some value), closed) →
            SeriesKeepsWidths keepsWidths entry bound closed

/-- Every question that the run on a reader comes to is for no more bits than one read can move. -/
def KeepsWidths {α : Type} : Decoder α → Reader σ → Prop
  | done _, _ => True
  | abort _, _ => True
  | ask query next, reader =>
      query.Fits ∧ ∀ answer rest, query.answer reader = (.ok answer, rest) →
        (next answer).KeepsWidths rest
  | within _ _ part next, reader =>
      part.KeepsWidths reader ∧ ∀ value rest, part.run reader = (.ok value, rest) →
        (next value).KeepsWidths rest
  | series entry next, reader =>
      SeriesKeepsWidths (fun code => (entry code).KeepsWidths) (fun code => (entry code).run)
          (reader.bitsLeft + 1) reader ∧
        ∀ values rest,
          runSeries (fun code => (entry code).run) (reader.bitsLeft + 1) [] reader =
            (.ok values, rest) →
          (next values).KeepsWidths rest

/-- A sequence keeps to the widths if its first part does, and its second part behind it. -/
theorem KeepsWidths.bind {α β : Type} {first : Decoder β} {next : β → Decoder α}
    {reader : Reader σ} (firstKeeps : first.KeepsWidths reader)
    (nextKeeps : ∀ value rest, first.run reader = (.ok value, rest) →
      (next value).KeepsWidths rest) : (first.bind next).KeepsWidths reader := by
  induction first generalizing reader with
  | done value => exact nextKeeps value reader rfl
  | abort error => trivial
  | ask query rest inductionHypothesis =>
      refine ⟨firstKeeps.1, fun answer behind answer_eq => ?_⟩
      refine inductionHypothesis answer (firstKeeps.2 answer behind answer_eq) ?_
      intro value last run_eq
      exact nextKeeps value last (by rw [run_ask, answer_eq]; exact run_eq)
  | within structureName offset part rest _ inductionHypothesis =>
      refine ⟨firstKeeps.1, fun result behind part_eq => ?_⟩
      refine inductionHypothesis result (firstKeeps.2 result behind part_eq) ?_
      intro value last run_eq
      exact nextKeeps value last (by rw [run_within, part_eq]; exact run_eq)
  | series entry rest _ inductionHypothesis =>
      refine ⟨firstKeeps.1, fun results behind series_eq => ?_⟩
      refine inductionHypothesis results (firstKeeps.2 results behind series_eq) ?_
      intro value last run_eq
      exact nextKeeps value last (by rw [run_series, series_eq]; exact run_eq)

/-! ## What follows -/

omit [BitSource σ] in
/-- Behind a part that refuses no width, what follows refuses none if it does so for each value of
the part. -/
theorem unrefused_resume {ε δ α β : Type} {next : α → Reader σ → Except δ β × Reader σ}
    {passOn : ε → Reader σ → δ} {part : Except ε α × Reader σ} (unrefused : part.2.Unrefused)
    (nexts : ∀ value rest, part = (.ok value, rest) → rest.Unrefused →
      (next value rest).2.Unrefused) : (resume next passOn part).2.Unrefused := by
  rcases part with ⟨error | value, rest⟩
  · exact unrefused
  · exact nexts value rest rfl unrefused

/-- A run that keeps to the widths is refused none. -/
theorem KeepsWidths.unrefused_run {α : Type} {decoder : Decoder α} {reader : Reader σ}
    (keeps : decoder.KeepsWidths reader) (unrefused : reader.Unrefused) :
    (decoder.run reader).2.Unrefused := by
  induction decoder generalizing reader with
  | done value => exact unrefused
  | abort error => exact unrefused
  | ask query next inductionHypothesis =>
      rw [run_ask]
      refine unrefused_resume (keeps.1.neverRefuses reader unrefused) ?_
      intro answer rest answer_eq behind
      exact inductionHypothesis answer (keeps.2 answer rest answer_eq) behind
  | within structureName offset part next partHypothesis nextHypothesis =>
      rw [run_within]
      refine unrefused_resume (partHypothesis keeps.1 unrefused) ?_
      intro value rest part_eq behind
      exact nextHypothesis value (keeps.2 value rest part_eq) behind
  | series entry next entryHypothesis nextHypothesis =>
      have entries (bound : Nat) (values : List _) (reader : Reader σ)
          (keeps : SeriesKeepsWidths (fun code => (entry code).KeepsWidths)
            (fun code => (entry code).run) bound reader) (unrefused : reader.Unrefused) :
          (runSeries (fun code => (entry code).run) bound values reader).2.Unrefused := by
        induction bound generalizing values reader with
        | zero => exact unrefused
        | succ bound inductionHypothesis =>
            rw [runSeries_succ]
            refine unrefused_resume (Reader.NeverRefuses.readUnsigned reader unrefused) ?_
            intro code opened opened_eq behind
            obtain ⟨entryKeeps, othersKeep⟩ := keeps code opened opened_eq
            refine unrefused_resume (entryHypothesis code entryKeeps behind) ?_
            intro result closed entry_eq behindEntry
            cases result with
            | none => exact behindEntry
            | some value =>
                exact inductionHypothesis (value :: values) closed
                  (othersKeep value closed entry_eq) behindEntry
      rw [run_series]
      refine unrefused_resume (entries _ [] reader keeps.1 unrefused) ?_
      intro values rest series_eq behind
      exact nextHypothesis values (keeps.2 values rest series_eq) behind

end Decoder

end CodedVideo
