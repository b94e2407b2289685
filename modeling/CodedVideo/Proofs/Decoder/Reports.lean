import CodedVideo.Proofs.Decoder.Attributed
import CodedVideo.Proofs.Decoder.Confined
import CodedVideo.Proofs.Decoder.Yields

/-!
# What parsers report of units

A grammar that is confined and attributes its errors is run on a unit from the first bit on. Its
reader is never refused a width, and each error that ends the run names a structure and is within
the unit. The parser of the unit may put what is decoded into another form, and it may keep what was
decoded up to a construct that is not supported.

Main statements: `Decoder.reports` and `Decoder.reportsPartly`.
-/

namespace CodedVideo

/-! ## Errors -/

/-- The error can be reported of the unit: it names a structure and is within the unit. -/
structure Error.ReportedOn (unit : List UInt8) (mayRefer : Prop) (error : Error) : Prop
    extends error.Attributed, error.Within unit mayRefer

namespace Error

variable {unit : List UInt8} {mayRefer : Prop} {error : Error}

instance Attributed.resourceExhausted (description : String) :
    Attributed (.resourceExhausted description) :=
  ⟨fun _ => Error.noConfusion⟩

instance Raised.resourceExhausted (description : String) :
    Raised mayRefer (.resourceExhausted description) :=
  ⟨fun _ => ⟨fun _ _ => Error.noConfusion, Bool.noConfusion⟩⟩

/-- An error at no bit that names a structure can be reported of every unit. -/
theorem ReportedOn.of_raised (unit : List UInt8) [isAttributed : error.Attributed]
    [raised : error.Raised mayRefer] : error.ReportedOn unit mayRefer :=
  ⟨isAttributed, raised.isWithin unit⟩

/-- An error that says what is not supported can be reported of every unit. -/
theorem ReportedOn.of_isUnsupported (unit : List UInt8)
    (isUnsupported : error.isUnsupported = true) :
    error.ReportedOn unit mayRefer := by
  cases error with
  | unsupported structureName feature => exact .of_raised unit
  | _ => contradiction

/-- What is reported where no parameter set is referred to can be reported where one may be. -/
theorem ReportedOn.weaken {mayReferToo : Prop} (isReported : error.ReportedOn unit mayRefer)
    (weakens : mayRefer → mayReferToo) : error.ReportedOn unit mayReferToo :=
  ⟨isReported.toAttributed, isReported.offset_le, fun isMissing =>
    weakens (isReported.refers isMissing)⟩

/-- A value in another form comes with the same errors. -/
theorem map_eq_error_iff {α β : Type} {result : Except Error α} {form : α → β} :
    result.map form = .error error ↔ result = .error error := by
  cases result with
  | error => simp [Except.map]
  | ok => simp [Except.map]

end Error

open Error (map_eq_error_iff)

namespace Decoder

variable {unit : List UInt8} {mayRefer : Prop} {α β : Type}

/-! ## Parsers -/

/-- The result of a parser is reported of its unit: the parser fails where its grammar does and with
the same error, the grammar asks for no more bits than one read can move, its reader has refused no
width, and the error can be reported. -/
structure Reports (grammar : Decoder β) (unit : List UInt8) (mayRefer : Prop)
    (result : Except Error α) : Prop where
  error_iff : ∀ error, result = .error error ↔ grammar.decodeUnit unit = .error error
  keepsWidths : grammar.KeepsWidths (EscapedReader.ofUnit unit)
  unrefused : (grammar.run (EscapedReader.ofUnit unit)).2.Unrefused
  isReported : ∀ error, result = .error error → error.ReportedOn unit mayRefer

/-- The result of a parser that keeps what was decoded is reported of its unit, and so is the error
at which decoding stopped on purpose: it says what is not supported. -/
structure ReportsPartly (grammar : Decoder (α × Option Error)) (unit : List UInt8)
    (result : Except (Interruption α) α) : Prop
    extends grammar.Reports unit False (Interruption.keepDecoded result) where
  incomplete : ∀ decoded error, result = .error (.incomplete decoded error) →
    error.isUnsupported = true ∧ error.ReportedOn unit False

/-- A parser that fails where its grammar does reports what the grammar does. -/
theorem Reports.of_error_iff {grammar : Decoder β} {result : Except Error α}
    (reports : grammar.Reports unit mayRefer (grammar.decodeUnit unit))
    (error_iff : ∀ error, result = .error error ↔ grammar.decodeUnit unit = .error error) :
    grammar.Reports unit mayRefer result :=
  ⟨error_iff, reports.keepsWidths, reports.unrefused,
    fun error failed => reports.isReported error ((error_iff error).mp failed)⟩

/-- A confined grammar that attributes its errors reports what it decodes. -/
theorem reports (grammar : Decoder α) [confined : Confined 0 mayRefer grammar]
    [isAttributed : Attributed grammar] (unit : List UInt8) :
    grammar.Reports unit mayRefer (grammar.decodeUnit unit) := by
  have stands := EscapedSource.standsIn_ofUnit unit
  have keeps := confined.keepsWidths unit (EscapedReader.ofUnit unit) stands
  have unrefused : (EscapedReader.ofUnit unit).Unrefused := nofun
  refine ⟨fun _ => Iff.rfl, keeps, keeps.unrefused_run unrefused, fun error failed => ?_⟩
  exact ⟨isAttributed.attributed _ error failed, confined.isWithin unit _ error stands failed⟩

/-- So does a parser that puts what is decoded into another form. -/
theorem Reports.of_map {grammar : Decoder β} {result : Except Error α} {form : α → β}
    (reports : grammar.Reports unit mayRefer (grammar.decodeUnit unit))
    (map_eq : result.map form = grammar.decodeUnit unit) :
    grammar.Reports unit mayRefer result :=
  reports.of_error_iff fun error => by rw [← map_eq, map_eq_error_iff]

/-- What is kept of a unit is reported if the grammar stops on purpose only at what is not
supported. -/
theorem reportsPartly (grammar : Decoder (α × Option Error)) [Confined 0 False grammar]
    [Attributed grammar]
    (stops : Yields grammar fun result =>
      ∀ error, result.2 = some error → error.isUnsupported = true)
    (unit : List UInt8) : grammar.ReportsPartly unit (grammar.decodeUnitPartly unit) := by
  have reports : grammar.Reports unit False (grammar.decodeUnit unit) := grammar.reports unit
  have kept : Interruption.keepDecoded (grammar.decodeUnitPartly unit) =
      (grammar.decodeUnit unit).map Prod.fst := by
    rw [decodeUnitPartly]
    rcases decode_eq : grammar.decodeUnit unit with error | ⟨decoded, _ | error⟩
    · rfl
    · rfl
    · dsimp only
      rw [Interruption.stopped, if_pos (stops.of_decodeUnit decode_eq error rfl)]
      rfl
  refine ⟨reports.of_error_iff fun error => by rw [kept, map_eq_error_iff], ?_⟩
  intro decoded error stopped
  rw [decodeUnitPartly] at stopped
  rcases decode_eq : grammar.decodeUnit unit with other | ⟨value, _ | other⟩
  · rw [decode_eq] at stopped
    cases stopped
  · rw [decode_eq] at stopped
    cases stopped
  · have isUnsupported := stops.of_decodeUnit decode_eq other rfl
    rw [decode_eq] at stopped
    dsimp only at stopped
    rw [Interruption.stopped, if_pos isUnsupported] at stopped
    cases stopped
    exact ⟨isUnsupported, .of_isUnsupported unit isUnsupported⟩

end Decoder

end CodedVideo
