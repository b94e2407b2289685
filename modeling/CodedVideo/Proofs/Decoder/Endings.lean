import CodedVideo.Proofs.CodeEndings
import CodedVideo.Proofs.Decoder.ReadsBack

/-!
# How decoders end

Where the bits in front of a reader decide how a decoder ends, a rule for each form of a decoder
says so: a part that fails ends the whole, and a part that gives a value passes its bits and leaves
the ending to what follows. Bits that are cut short of a value end every part inside of them.

Main statement: `Reader.StandsIn.gives_iff`.
-/

namespace CodedVideo

open PlainReader (before)
open CodedField (codeAll)

namespace Decoder

variable {α β : Type}

/-- In front of `bits`, at whatever position, a run has the result and stops `count` bits
further on. -/
def EndsOn (decoder : Decoder α) (bits : List Bool) (result : Except Error α) (count : Nat) :
    Prop :=
  ∀ position, (decoder.run (before position bits)).1 = result ∧
    (decoder.run (before position bits)).2.position = position + count

/-- The bits are decoded to the value, wherever they stand and whatever follows them. -/
def Reads (decoder : Decoder α) (front : List Bool) (value : α) : Prop :=
  ∀ position rest, decoder.run (before position (front ++ rest)) =
    (.ok value, before (position + front.length) rest)

/-- Where the bits are cut short, the data ends. -/
def FailsCut (decoder : Decoder α) (front : List Bool) : Prop :=
  ∀ bits, bits <+: front → bits ≠ front →
    decoder.EndsOn bits (.error (.unlocated .unexpectedEnd)) bits.length

/-! ## Values -/

/-- Fields whose bits are the same everywhere are decoded from those bits. -/
theorem Decodes.reads {decoder : Decoder α} {fields : List CodedField} {value : α}
    {front : List Bool} (decodes : Decodes decoder fields value)
    (exact : ∀ field ∈ fields, field.Exact) (codeAll_eq : ∀ start, codeAll fields start = front) :
    decoder.Reads front value := by
  intro position rest
  have read := decodes position _ exact rfl rest
  rwa [codeAll_eq] at read

namespace Reads

variable {front back : List Bool} {value : α} {middle : β} {first : Decoder β}
  {next : β → Decoder α}

theorem flag (value : Bool) : Decoder.flag.Reads [value] value :=
  (Decodes.flag value).reads (by simp [CodedField.Exact, CodedField.Fits, CodedField.kept])
    fun _ => rfl

/-- A value is decoded from all bits from which it is read. -/
theorem unsigned {value : Nat} (inRange : value ≤ 4294967295)
    (readAs : ExpGolomb.ReadAs ExpGolomb.wrappedCount value front) :
    Decoder.unsigned.Reads front value := by
  intro position rest
  have carried : CarriesUnsigned value value := ⟨rfl, inRange⟩
  have ending := @CodeEnding.value _ _ _ _ rest _ _ readAs carried
  have read : Reader.readUnsigned (before position (front ++ rest)) = _ :=
    Reader.read_of_codeEnding Reader.checksCarried_unsigned ending position
  rw [List.drop_left] at read
  rw [Decoder.unsigned, run_ask, Query.answer, read]
  rfl

theorem done (value : α) : (Decoder.done value).Reads [] value := fun _ _ => rfl

theorem require {condition : Bool} {error : Error} (holds : condition = true) :
    (Decoder.require condition error).Reads [] () := by
  rw [Decoder.require, if_pos holds]
  exact done ()

/-- A part is followed by what reads the bits behind it. -/
theorem bind (reads : first.Reads front middle) (nexts : (next middle).Reads back value) :
    (first.bind next).Reads (front ++ back) value := by
  intro position rest
  rw [List.append_assoc, run_bind, reads position, List.length_append, ← Nat.add_assoc]
  exact nexts _ rest

theorem eachOnto {κ : Type} {item : κ → Decoder α} {coding : α → List Bool} {key : α → κ}
    {values : List α} (reads : ∀ value ∈ values, (item (key value)).Reads (coding value) value)
    (others : List α) :
    (Decoder.eachOnto item (values.map key) others).Reads (values.flatMap coding)
      (others.reverse ++ values) := by
  induction values generalizing others with
  | nil =>
      rw [List.append_nil]
      exact done others.reverse
  | cons value values inductionHypothesis =>
      rw [List.forall_mem_cons] at reads
      have following := inductionHypothesis reads.2 (value :: others)
      rw [List.reverse_cons, List.append_assoc] at following
      exact bind reads.1 following

end Reads

/-! ## Endings -/

namespace EndsOn

variable {bits front : List Bool} {result : Except Error α} {count : Nat} {middle : β}
  {first : Decoder β} {next : β → Decoder α} {error : Error}

theorem done (value : α) (bits : List Bool) : (Decoder.done value).EndsOn bits (.ok value) 0 :=
  fun _ => ⟨rfl, rfl⟩

theorem abort (error : Error) (bits : List Bool) :
    (Decoder.abort error : Decoder α).EndsOn bits (.error error) 0 :=
  fun _ => ⟨rfl, rfl⟩

theorem require {condition : Bool} (fails : condition = false) (error : Error) (bits : List Bool) :
    (Decoder.require condition error).EndsOn bits (.error error) 0 := by
  rw [fails]
  exact abort error bits

/-- A part that fails ends the sequence. -/
theorem bind_error (failed : first.EndsOn bits (.error error) count) :
    (first.bind next).EndsOn bits (.error error) count := by
  intro position
  rcases failed position with ⟨result_eq, position_eq⟩
  rw [run_bind]
  rcases run_eq : first.run (before position bits) with ⟨stoppedWith | value, stopped⟩
  · rw [run_eq] at result_eq position_eq
    cases result_eq
    exact ⟨rfl, position_eq⟩
  · rw [run_eq] at result_eq
    cases result_eq

/-- Behind a part that gives a value the sequence ends as what follows does. -/
theorem behind (reads : first.Reads front middle)
    (following : (next middle).EndsOn bits result count) :
    (first.bind next).EndsOn (front ++ bits) result (front.length + count) := by
  intro position
  have ended := following (position + front.length)
  rw [run_bind, reads position bits]
  rwa [Nat.add_assoc] at ended

/-- Behind the last part with bits the sequence ends as what follows does. -/
theorem behind_last (reads : first.Reads front middle)
    (following : (next middle).EndsOn bits result 0) :
    (first.bind next).EndsOn (front ++ bits) result front.length :=
  behind reads following

/-- A part without bits is followed by what ends in front of all of them. -/
theorem behind_nil (reads : first.Reads [] middle)
    (following : (next middle).EndsOn bits result count) :
    (first.bind next).EndsOn bits result count := by
  have ended := behind reads following
  rwa [List.nil_append, List.length_nil, Nat.zero_add] at ended

/-- A code that cannot be read ends an unsigned read. -/
theorem unsigned {fault : BitFault}
    (ending : CodeEnding ExpGolomb.wrappedCount CarriesUnsigned bits (.error fault) count) :
    Decoder.unsigned.EndsOn bits (.error (.unlocated fault)) count := by
  intro position
  have read : Reader.readUnsigned (before position bits) = _ :=
    Reader.read_of_codeEnding Reader.checksCarried_unsigned ending position
  rw [Decoder.unsigned, run_ask, Query.answer, read]
  exact ⟨rfl, rfl⟩

end EndsOn

/-! ## Cuts -/

namespace FailsCut

variable {front back : List Bool} {middle : β} {first : Decoder β} {next : β → Decoder α}

theorem nil (decoder : Decoder α) : decoder.FailsCut [] := by
  intro bits isPrefix isProper
  exact absurd (List.prefix_nil.mp isPrefix) isProper

theorem flag (value : Bool) : Decoder.flag.FailsCut [value] := by
  intro bits isPrefix isProper
  rcases List.prefix_cons_iff.mp isPrefix with rfl | ⟨rest, rfl, isRest⟩
  · exact fun _ => ⟨rfl, rfl⟩
  · rw [List.prefix_nil.mp isRest] at isProper
    exact absurd rfl isProper

/-- A cut stands in front of the end of the first part or behind it. -/
theorem bind (reads : first.Reads front middle) (firstCut : first.FailsCut front)
    (nextCut : (next middle).FailsCut back) : (first.bind next).FailsCut (front ++ back) := by
  intro bits isPrefix isProper
  by_cases isBehind : front <+: bits
  · obtain ⟨rest, rfl⟩ := isBehind
    have restPrefix : rest <+: back := (List.prefix_append_right_inj front).mp isPrefix
    have restProper : rest ≠ back := fun rest_eq => isProper (congrArg (front ++ ·) rest_eq)
    rw [List.length_append]
    exact EndsOn.behind reads (nextCut rest restPrefix restProper)
  · have inFront : bits <+: front := by
      rcases List.prefix_or_prefix_of_prefix isPrefix (List.prefix_append front back) with
        inFront | behind
      · exact inFront
      · exact absurd behind isBehind
    refine EndsOn.bind_error (firstCut bits inFront ?_)
    rintro rfl
    exact isBehind (List.prefix_refl bits)

/-- Values in a row are cut short where one of them is. -/
theorem eachOnto {κ : Type} {item : κ → Decoder α} {coding : α → List Bool} {key : α → κ}
    {values : List α} (reads : ∀ value ∈ values, (item (key value)).Reads (coding value) value)
    (cut : ∀ value ∈ values, (item (key value)).FailsCut (coding value)) (others : List α) :
    (Decoder.eachOnto item (values.map key) others).FailsCut (values.flatMap coding) := by
  induction values generalizing others with
  | nil => exact nil _
  | cons value values inductionHypothesis =>
      rw [List.forall_mem_cons] at reads cut
      exact bind reads.1 cut.1 (inductionHypothesis reads.2 cut.2 (value :: others))

end FailsCut

end Decoder

/-! ## Readers of either kind -/

variable {σ : Type} [BitSource σ]

namespace Reader

/-- A run of the decoder has the result and stops `count` bits behind where it started. -/
structure Gives {α : Type} (reader : Reader σ) (decoder : Decoder α) (result : Except Error α)
    (count : Nat) : Prop where
  result_eq : (decoder.run reader).1 = result
  position_eq : (decoder.run reader).2.position = reader.position + count

theorem Gives.unique {α : Type} {reader : Reader σ} {decoder : Decoder α}
    {result other : Except Error α} {count otherCount : Nat}
    (given : reader.Gives decoder result count) (others : reader.Gives decoder other otherCount) :
    result = other ∧ count = otherCount :=
  ⟨given.result_eq.symm.trans others.result_eq,
    Nat.add_left_cancel (given.position_eq.symm.trans others.position_eq)⟩

/-- On a reader without a fault a decoder ends as it does on the bits behind the position: in one of
the ways that are sound, as long as one of them is there. -/
theorem StandsIn.gives_iff [FiniteSource σ] {α : Type} {decoder : Decoder α} {decoded : List Bool}
    {reader : Reader σ} (stands : reader.StandsIn decoded) (noFault : reader.fault = none)
    {Ending : Except Error α → Nat → Prop}
    (sound : ∀ {result count}, Ending result count →
      decoder.EndsOn (decoded.drop reader.position) result count)
    (isThere : ∃ result count, Ending result count) (result : Except Error α) (count : Nat) :
    reader.Gives decoder result count ↔ Ending result count := by
  refine taken_iff_said Gives.unique ?_ isThere result count
  intro result count ending
  rcases sound ending reader.position with ⟨plainResult, plainPosition⟩
  rcases stands.ends fun inStep _ _ readers =>
    decoder.run_alike (fun impossible => impossible.elim) inStep readers with
    ⟨result_eq, position_eq, _⟩
  rw [noFault] at result_eq position_eq
  exact ⟨result_eq.trans plainResult, position_eq.trans plainPosition⟩

end Reader

end CodedVideo
