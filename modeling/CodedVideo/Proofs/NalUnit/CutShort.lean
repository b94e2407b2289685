import CodedVideo.Proofs.Bits.PlainReads
import CodedVideo.Proofs.Decoder.Attributed
import CodedVideo.Proofs.Decoder.Blind
import CodedVideo.Proofs.NalUnit.Payload

/-!
# Units that are cut short

The trailing bits of a payload are a one and zeros behind it. If the last byte of the payload is not
zero, that one stands in it. A cut takes at least that byte, and so leaves no bit of what stands
behind the fields: a grammar that reads its fields without looking ahead finds a shorter unit at its
end where the trailing bits are to open, if not earlier.

Main statement: `rejectsCuts_decodeUnit`.
-/

namespace CodedVideo

/-! ## Payloads -/

/-- A source of bits that were cut off behind some bit, and the source of all bits at the same
bit. -/
def CutRelated (tail : List Bool) (first second : PlainSource) : Prop :=
  first.position = second.position ∧ second.unread = first.unread ++ tail

/-- Up to a cut the same bits are handed out. -/
theorem inStep_cutRelated (tail : List Bool) : InStep True (CutRelated tail) where
  position_eq sources := sources.1
  next_related := by
    rintro ⟨position, _ | ⟨bit, unread⟩⟩ ⟨_, _⟩ ⟨rfl, rfl⟩
    · exact Or.inl ⟨rfl, Or.inl trivial⟩
    · exact Or.inr ⟨bit, _, _, rfl, rfl, rfl, rfl⟩

/-- Where all bits end in trailing bits and a one is cut off, nothing is left of those. -/
theorem atCut_of_readTrailingBits {tail : List Bool} (hasOne : true ∈ tail)
    {first second last : PlainReader} (readers : ReadersRelated (CutRelated tail) first second)
    (accepted : Reader.readTrailingBits second = (.ok (), last)) :
    first = PlainReader.before first.position [] := by
  rcases Reader.unread_of_readTrailingBits accepted with ⟨no_fault, zeros, unread_eq⟩
  rcases first with ⟨⟨position, _ | ⟨bit, unread⟩⟩, fault⟩
  · have fault_eq := readers.fault_eq.trans no_fault
    simp only at fault_eq
    rw [fault_eq]
    rfl
  · -- The one that opens the trailing bits is left, so only zeros are cut off.
    have whole_eq := readers.sources.2.symm.trans unread_eq
    have zeros_eq := (List.cons.inj whole_eq).2
    have isZero : true ∈ List.replicate zeros false :=
      zeros_eq ▸ List.mem_append_right unread hasOne
    exact Bool.noConfusion (List.eq_of_mem_replicate isZero)

/-! ## Grammars that end in trailing bits -/

/-- The parser rejects each unit that is cut out of the front of an accepted one, whose payload ends
in a byte other than zero. It reports by `truncation` that the unit ends too early. Of the accepted
values only the `complete` ones count. -/
def RejectsCuts {ε α : Type} (truncation : String → Nat → ε) (complete : α → Prop)
    (parse : List UInt8 → Except ε α) : Prop :=
  ∀ unit value last, parse unit = .ok value → complete value →
    (Emulation.remove unit).getLast? = some last → last ≠ 0 →
    ∀ part, part <+: unit → part ≠ unit →
      ∃ name offset, parse part = .error (truncation name offset)

namespace Decoder

variable {α β : Type}

/-- What follows trailing bits that are accepted of all bits is not reached where a one is cut off:
the trailing bits are truncated. -/
theorem truncated_of_trailingBits {tail : List Bool} (hasOne : true ∈ tail)
    {first second last : PlainReader} (readers : ReadersRelated (CutRelated tail) first second)
    {structureName : String} {next : Unit → Decoder α} {value : α}
    (accepted : ((located structureName trailingBits).bind next).run second = (.ok value, last)) :
    (((located structureName trailingBits).bind next).run first).1 =
      .error (.truncated structureName first.position) := by
  rw [located, run_bind, run_within, trailingBits, run_ask] at accepted
  rcases read : Reader.readTrailingBits second with ⟨fault | _, rest⟩
  · rw [Query.answer, read] at accepted
    cases accepted
  · rw [atCut_of_readTrailingBits hasOne readers read]
    rfl

section

variable (front : Decoder β) (close : β → Decoder α) [blind : Blind front]
  [isAttributed : Attributed front]

/-- Where a one is cut off, a run does not come to its end if it does so behind trailing bits of
all bits. -/
theorem truncated_of_cut {tail : List Bool} (hasOne : true ∈ tail)
    {first second last : PlainReader} (readers : ReadersRelated (CutRelated tail) first second)
    {value : α} (accepted : (front.bind close).run second = (.ok value, last))
    (closed : ∀ state reader, (close state).run reader = (.ok value, last) →
      ∃ name next, close state = (located name trailingBits).bind next) :
    ∃ name offset, ((front.bind close).run first).1 = .error (.truncated name offset) := by
  have alike := front.run_alike (fun _ => blind.neverLooksAhead) (inStep_cutRelated tail) readers
  rw [run_bind] at accepted ⊢
  rcases whole_eq : front.run second with ⟨error | state, wholeRest⟩
  · rw [whole_eq] at accepted
    cases accepted
  rw [whole_eq] at alike accepted
  rcases part_eq : front.run first with ⟨error | partState, partRest⟩
  · rcases alike with ⟨result_eq, _⟩ | ⟨_, partError, failed, isEnd⟩
    · rw [part_eq] at result_eq
      cases result_eq
    · obtain ⟨name, offset, rfl⟩ :=
        (isAttributed.attributed first partError failed).exists_truncated isEnd
      rw [part_eq] at failed
      cases failed
      exact ⟨name, offset, rfl⟩
  · rw [part_eq] at alike
    rcases alike with ⟨result_eq, rests⟩ | ⟨_, _, result_eq, _⟩
    · cases result_eq
      obtain ⟨name, next, opens⟩ := closed state wholeRest accepted
      simp only [opens] at accepted ⊢
      exact ⟨name, _, truncated_of_trailingBits hasOne rests accepted⟩
    · cases result_eq

/-- A grammar whose accepted values are all followed by trailing bits rejects units that are cut
short, if what stands in front of those bits is read without looking ahead. -/
theorem rejectsCuts_decodeUnit (complete : α → Prop)
    (closed : ∀ state value (reader last : PlainReader), complete value →
      (close state).run reader = (.ok value, last) →
      ∃ name next, close state = (located name trailingBits).bind next) :
    RejectsCuts .truncated complete (front.bind close).decodeUnit := by
  rintro unit value lastByte accepted isComplete ends notZero part ⟨back, rfl⟩ isProper
  have isCut : back ≠ [] := by
    rintro rfl
    exact isProper (List.append_nil part).symm
  rcases Emulation.exists_remove_append_eq isCut ends notZero with ⟨bytes, payload_eq, bytesEnd⟩
  have hasOne : true ∈ Bits.ofBytes bytes :=
    List.mem_flatMap.mpr ⟨lastByte, List.mem_of_getLast? bytesEnd, Bits.true_mem_ofByte notZero⟩
  have starts : ReadersRelated (CutRelated (Bits.ofBytes bytes))
      (PlainReader.ofBytes (Emulation.remove part))
      (PlainReader.ofBytes (Emulation.remove part ++ bytes)) :=
    ⟨⟨rfl, Bits.ofBytes_append _ _⟩, rfl⟩
  rw [decodeUnit_eq_run_payload] at accepted ⊢
  rw [payload_eq] at accepted
  rcases whole_eq : (front.bind close).run
    (PlainReader.ofBytes (Emulation.remove part ++ bytes)) with ⟨result, last⟩
  rw [whole_eq] at accepted
  subst accepted
  apply truncated_of_cut front close hasOne starts whole_eq
  intro state reader run_eq
  exact closed state value reader last isComplete run_eq

end

/-- A grammar that can stop on purpose rejects units that are cut out of those that it decodes to
the end. -/
theorem rejectsCuts_decodeUnitPartly (decoder : Decoder (α × Option Error))
    (rejects : RejectsCuts .truncated (·.2 = none) decoder.decodeUnit) :
    RejectsCuts (fun name offset => .failed (.truncated name offset)) (fun _ => True)
      decoder.decodeUnitPartly := by
  intro unit value last accepted _ ends notZero part isPrefix isProper
  have decoded : decoder.decodeUnit unit = .ok (value, none) := by
    simp only [decodeUnitPartly] at accepted
    split at accepted <;> simp_all
  obtain ⟨name, offset, failed⟩ :=
    rejects unit _ last decoded rfl ends notZero part isPrefix isProper
  exact ⟨name, offset, by simp only [decodeUnitPartly, failed]⟩

end Decoder

end CodedVideo
