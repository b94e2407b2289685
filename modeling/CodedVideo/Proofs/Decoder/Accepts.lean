import CodedVideo.Proofs.CodedField
import CodedVideo.Proofs.Decoder.Endings
import Mathlib.Data.List.Forall2

/-!
# What decoders accept

A reader passes fields if reading in their forms, one after another, gives these very fields. That is
said of every source of bits, whatever it hands out. A decoder accepts what a relation between values
and fields says if its runs give a value exactly where the reader passes fields that are related to
the value. Then the relation is all that is to be known of the runs that succeed: no other fields are
passed, and none of them is refused.

Main statements: `Accepts.bind` and `Accepts.times` for sequences and lists, and `Accepts.gives` for
the bits of fields in front of a reader of either kind.
-/

namespace CodedVideo

open CodedField (codeAll)
open PlainReader (before)

section

variable {σ : Type} [BitSource σ]

/-- Reading in the forms of the fields gives the fields, and leads to another reader. -/
def Reader.Passes (reader : Reader σ) (fields : List CodedField) (last : Reader σ) : Prop :=
  CodedField.readAll fields reader = (.ok fields, last)

namespace Reader

variable {reader last : Reader σ} {field : CodedField} {front back fields : List CodedField}

theorem passes_nil_iff : reader.Passes [] last ↔ reader = last :=
  ⟨fun passed => congrArg Prod.snd passed, congrArg (Prod.mk (Except.ok []))⟩

theorem passes_cons_iff : reader.Passes (field :: fields) last ↔
    ∃ middle, field.read reader = (.ok field, middle) ∧ middle.Passes fields last := by
  constructor
  · intro passed
    obtain ⟨first, middle, first_eq, behind⟩ := bind_eq_ok passed
    obtain ⟨others, rest, others_eq, joined⟩ := bind_eq_ok behind
    cases joined
    exact ⟨middle, first_eq, others_eq⟩
  · rintro ⟨middle, first_eq, others_eq⟩
    rw [Passes] at others_eq ⊢
    rw [CodedField.readAll, bind_apply, first_eq]
    simp only [resume]
    rw [bind_apply, others_eq]
    rfl

theorem passes_append_iff : reader.Passes (front ++ back) last ↔
    ∃ middle, reader.Passes front middle ∧ middle.Passes back last := by
  induction front generalizing reader with
  | nil =>
      simp only [List.nil_append, passes_nil_iff]
      exact ⟨fun passed => ⟨reader, rfl, passed⟩, fun ⟨_, same, passed⟩ => same ▸ passed⟩
  | cons field front inductionHypothesis =>
      simp only [List.cons_append, passes_cons_iff, inductionHypothesis]
      constructor
      · rintro ⟨first, first_eq, middle, passed, behind⟩
        exact ⟨middle, ⟨first, first_eq, passed⟩, behind⟩
      · rintro ⟨middle, ⟨first, first_eq, passed⟩, behind⟩
        exact ⟨first, first_eq, middle, passed, behind⟩

/-- A single field is passed where the read of its form gives its value. -/
theorem passes_singleton_iff {α : Type} {part : ReadM σ α} {form : α → CodedField} {value : α}
    (read_eq : (form value).read = form <$> part) (injective : ∀ {other}, form other = form value →
      other = value) :
    reader.Passes [form value] last ↔ part reader = (.ok value, last) := by
  simp only [passes_cons_iff, passes_nil_iff, exists_eq_right, read_eq]
  constructor
  · intro mapped
    obtain ⟨other, rest, part_eq, other_eq⟩ := bind_eq_ok mapped
    obtain ⟨form_eq, rest_eq⟩ := Prod.ext_iff.mp other_eq
    cases rest_eq
    rw [injective (Except.ok.inj form_eq)] at part_eq
    exact part_eq
  · intro part_eq
    have mapped_eq := bind_apply part (fun value => pure (form value)) reader
    rw [part_eq] at mapped_eq
    exact mapped_eq

end Reader

end

namespace Decoder

variable {α β : Type}

/-- A run gives a value exactly if the reader passes fields that are related to the value. -/
structure Accepts (decoder : Decoder α) (related : α → List CodedField → Prop) : Prop where
  run_iff : ∀ {σ : Type} [BitSource σ] (reader last : Reader σ) (value : α),
    decoder.run reader = (.ok value, last) ↔
      ∃ fields, related value fields ∧ reader.Passes fields last

namespace Accepts

variable {related other : α → List CodedField → Prop}

/-! ## Sequences -/

theorem congr {decoder : Decoder α} (accepts : Accepts decoder related)
    (same : ∀ value fields, related value fields ↔ other value fields) :
    Accepts decoder other := by
  constructor
  intro σ _ reader last value
  simp only [accepts.run_iff, same]

theorem done (value : α) :
    Accepts (Decoder.done value) fun result fields => result = value ∧ fields = [] := by
  constructor
  intro σ _ reader last result
  constructor
  · intro run_eq
    cases run_eq
    exact ⟨[], ⟨rfl, rfl⟩, Reader.passes_nil_iff.mpr rfl⟩
  · rintro ⟨_, ⟨rfl, rfl⟩, passed⟩
    rw [Reader.passes_nil_iff.mp passed]
    rfl

theorem abort (error : Error) : Accepts (Decoder.abort error) fun (_ : α) _ => False := by
  constructor
  intro σ _ reader last result
  constructor
  · intro run_eq
    cases run_eq
  · rintro ⟨_, ⟨⟩, _⟩

/-- A requirement is accepted, without fields, where it is met. -/
theorem require {isMet : Bool} {error : Error} :
    Accepts (Decoder.require isMet error) fun _ fields => isMet = true ∧ fields = [] := by
  cases isMet with
  | true => exact (done ()).congr fun _ _ => and_congr_left fun _ => ⟨fun _ => rfl, fun _ => rfl⟩
  | false => exact (abort error).congr fun _ _ => by simp

/-- A computed value is accepted without fields. -/
theorem ofExcept (result : Except Error α) :
    Accepts (Decoder.ofExcept result) fun value fields => result = .ok value ∧ fields = [] := by
  cases result with
  | ok value => exact (done value).congr fun _ _ => by rw [Except.ok.injEq, eq_comm]
  | error error => exact (abort error).congr fun _ _ => by simp

/-- The fields of a sequence are those of its first part and those of its second part. The second
part needs to be known only for the values that the first part gives. -/
theorem bind_given {first : Decoder β} {next : β → Decoder α} {opening : β → List CodedField → Prop}
    {following : β → α → List CodedField → Prop} (accepts : Accepts first opening)
    (nexts : ∀ middle opened, opening middle opened → Accepts (next middle) (following middle)) :
    Accepts (first.bind next) fun value fields => ∃ middle opened behind,
      opening middle opened ∧ following middle value behind ∧ fields = opened ++ behind := by
  constructor
  intro σ _ reader last value
  constructor
  · intro run_eq
    obtain ⟨middle, rest, first_eq, next_eq⟩ := ok_of_run_bind run_eq
    obtain ⟨opened, isOpened, openedPassed⟩ := (accepts.run_iff _ _ _).mp first_eq
    have accepted := nexts middle opened isOpened
    obtain ⟨behind, follows, behindPassed⟩ := (accepted.run_iff _ _ _).mp next_eq
    exact ⟨opened ++ behind, ⟨middle, opened, behind, isOpened, follows, rfl⟩,
      Reader.passes_append_iff.mpr ⟨rest, openedPassed, behindPassed⟩⟩
  · rintro ⟨_, ⟨middle, opened, behind, isOpened, follows, rfl⟩, passed⟩
    obtain ⟨rest, openedPassed, behindPassed⟩ := Reader.passes_append_iff.mp passed
    rw [run_bind, (accepts.run_iff _ _ _).mpr ⟨opened, isOpened, openedPassed⟩]
    exact ((nexts middle opened isOpened).run_iff _ _ _).mpr ⟨behind, follows, behindPassed⟩

theorem bind {first : Decoder β} {next : β → Decoder α} {opening : β → List CodedField → Prop}
    {following : β → α → List CodedField → Prop} (accepts : Accepts first opening)
    (nexts : ∀ middle, Accepts (next middle) (following middle)) :
    Accepts (first.bind next) fun value fields => ∃ middle opened behind,
      opening middle opened ∧ following middle value behind ∧ fields = opened ++ behind :=
  accepts.bind_given fun middle _ _ => nexts middle

/-- Naming the structure of a part changes nothing of what it accepts. -/
theorem within {structureName : String} {offset : Option Nat} {part : Decoder α}
    (accepts : Accepts part related) :
    Accepts (Decoder.within structureName offset part Decoder.done) related := by
  constructor
  intro σ _ reader last value
  rw [← accepts.run_iff]
  constructor
  · exact ok_of_run_within
  · intro part_eq
    rw [run_within, part_eq]
    rfl

/-! ## Single reads -/

/-- A read passes the one field of its form. -/
theorem ask {query : Query α} {form : α → CodedField}
    (read_eq : ∀ {σ : Type} [BitSource σ] (value : α),
      (form value).read (σ := σ) = form <$> query.answer)
    (injective : ∀ {value other}, form other = form value → other = value) :
    Accepts (Decoder.ask query Decoder.done) fun value fields => fields = [form value] := by
  constructor
  intro σ _ reader last value
  rw [exists_eq_left, Reader.passes_singleton_iff (read_eq value) injective, run_ask]
  rcases query.answer reader with ⟨fault | answer, rest⟩
  · exact ⟨nofun, nofun⟩
  · constructor
    · intro answer_eq
      cases answer_eq
      rfl
    · intro answer_eq
      cases answer_eq
      rfl

theorem flag : Accepts Decoder.flag fun value fields => fields = [.flag value] :=
  ask (fun _ => rfl) CodedField.flag.inj

theorem unsigned : Accepts Decoder.unsigned fun value fields => fields = [.unsigned value] :=
  ask (fun _ => rfl) CodedField.unsigned.inj

theorem signed : Accepts Decoder.signed fun value fields => fields = [.signed value] :=
  ask (fun _ => rfl) CodedField.signed.inj

/-! ## Repetition -/

/-- Each item has its own fields, and they stand one behind the other. -/
theorem foldFrom_cons {item : Nat → Decoder α} {related : Nat → α → List CodedField → Prop}
    (items : ∀ index, Accepts (item index) (related index)) (count index : Nat) (others : List α) :
    Accepts (Decoder.foldFrom
        (fun index values => (item index).bind fun value => Decoder.done (value :: values))
        count index others) fun result fields =>
      ∃ (values : List α) (codings : List (List CodedField)),
        result = values.reverse ++ others ∧ values.length = count ∧
        List.Forall₂ (fun entry coding => related entry.2 entry.1 coding)
          (values.zipIdx index) codings ∧
        fields = codings.flatten := by
  induction count generalizing index others with
  | zero =>
      refine (done others).congr fun result fields => ?_
      constructor
      · rintro ⟨rfl, rfl⟩
        exact ⟨[], [], rfl, rfl, .nil, rfl⟩
      · rintro ⟨values, codings, rfl, length_eq, each, rfl⟩
        rw [List.length_eq_zero_iff] at length_eq
        subst length_eq
        cases each
        exact ⟨rfl, rfl⟩
  | succ count inductionHypothesis =>
      rw [Decoder.foldFrom, bind_assoc]
      refine (bind (items index) fun value =>
        inductionHypothesis (index + 1) (value :: others)).congr fun result fields => ?_
      constructor
      · rintro ⟨value, coding, _, isCoded, ⟨values, codings, rfl, rfl, each, rfl⟩, rfl⟩
        refine ⟨value :: values, coding :: codings, ?_, rfl, .cons isCoded each, rfl⟩
        rw [List.reverse_cons, List.append_assoc, List.singleton_append]
      · rintro ⟨values, codings, rfl, length_eq, each, rfl⟩
        obtain ⟨value, values, rfl⟩ := List.exists_cons_of_length_eq_add_one length_eq
        cases each with
        | @cons _ coding _ codings isCoded each =>
            refine ⟨value, coding, codings.flatten, isCoded,
              ⟨values, codings, ?_, Nat.succ.inj length_eq, each, rfl⟩, rfl⟩
            rw [List.reverse_cons, List.append_assoc, List.singleton_append]

/-- Items that each know their index have their own fields, one behind the other. -/
theorem times {item : Nat → Decoder α} {related : Nat → α → List CodedField → Prop}
    (items : ∀ index, Accepts (item index) (related index)) (count : Nat) :
    Accepts (Decoder.times count item) fun values fields =>
      ∃ codings : List (List CodedField), values.length = count ∧
        List.Forall₂ (fun entry coding => related entry.2 entry.1 coding) values.zipIdx codings ∧
        fields = codings.flatten := by
  refine (bind (foldFrom_cons items count 0 []) fun values => done values.reverse).congr
    fun result fields => ?_
  constructor
  · rintro ⟨_, _, _, ⟨values, codings, rfl, length_eq, each, rfl⟩, ⟨rfl, rfl⟩, rfl⟩
    rw [List.append_nil, List.append_nil, List.reverse_reverse]
    exact ⟨codings, length_eq, each, rfl⟩
  · rintro ⟨codings, length_eq, each, rfl⟩
    refine ⟨result.reverse, codings.flatten, [], ⟨result, codings, ?_, length_eq, each, rfl⟩,
      ⟨(List.reverse_reverse result).symm, rfl⟩, (List.append_nil _).symm⟩
    exact (List.append_nil _).symm

/-! ## Bits of fields -/

/-- Exact fields that are related to a value are decoded to it, wherever they stand. -/
theorem decodes {decoder : Decoder α} (accepts : Accepts decoder related) {value : α}
    {fields : List CodedField} (isRelated : related value fields) (notLast : .trailing ∉ fields) :
    Decodes decoder fields value := by
  intro start stop exact ends rest
  have passed := CodedField.readAll_before (fun field isField => (exact field isField).1) notLast
    start rest
  have kept_eq : fields.map CodedField.kept = fields :=
    (List.map_congr_left fun field isField => (exact field isField).2).trans (List.map_id fields)
  rw [kept_eq, ends] at passed
  exact (accepts.run_iff _ _ _).mpr ⟨fields, isRelated, passed⟩

/-- In front of the bits of exact fields that are related to a value, a reader that stands in them
without a fault gives the value and stops behind them. -/
theorem gives {σ : Type} [BitSource σ] [FiniteSource σ] {decoder : Decoder α}
    (accepts : Accepts decoder related) {value : α} {fields : List CodedField}
    (isRelated : related value fields) (exact : ∀ field ∈ fields, field.Exact)
    (free : ∀ field ∈ fields, ¬ field.IsAligning) {decoded rest : List Bool} {reader : Reader σ}
    (stands : reader.StandsIn decoded) (noFault : reader.fault = none)
    (decoded_eq : decoded.drop reader.position = codeAll fields 0 ++ rest) :
    reader.Gives decoder (.ok value) (codeAll fields 0).length := by
  have notLast : CodedField.trailing ∉ fields := fun isLast => free _ isLast trivial
  have reads : decoder.Reads (codeAll fields 0) value :=
    (accepts.decodes isRelated notLast).reads exact fun start =>
      CodedField.codeAll_eq_of_not_isAligning free start 0
  have ends : decoder.EndsOn (codeAll fields 0 ++ rest) (.ok value) (codeAll fields 0).length := by
    intro position
    rw [reads position rest]
    exact ⟨rfl, rfl⟩
  have sound : ∀ {result : Except Error α} {count : Nat},
      (result = .ok value ∧ count = (codeAll fields 0).length) →
        decoder.EndsOn (decoded.drop reader.position) result count := by
    rintro _ _ ⟨rfl, rfl⟩
    rw [decoded_eq]
    exact ends
  exact (stands.gives_iff noFault sound ⟨_, _, rfl, rfl⟩ _ _).mpr ⟨rfl, rfl⟩

end Accepts

end Decoder

end CodedVideo
