import CodedVideo.NalUnit.EscapedWriter

/-!
# Coded fields

A structure is written as the list of its fields in coding order. Each field holds its value and the
form in which the value is coded, so a list of fields is at once the text of a unit and the plan
for reading it back.
-/

namespace CodedVideo

/-- A value in the form in which it is coded. -/
inductive CodedField where
  /-- The low `width` bits of a number, at most 32. -/
  | bits (value width : Nat)
  /-- The low `width` bits of a number, at most 64. -/
  | wideBits (value width : Nat)
  /-- One bit. -/
  | flag (value : Bool)
  /-- An unsigned Exp-Golomb code. -/
  | unsigned (value : Nat)
  /-- A signed Exp-Golomb code. -/
  | signed (value : Int)
  /-- Zeros up to the next byte boundary. -/
  | alignment
  /-- A one, then zeros up to the next byte boundary. -/
  | trailing
deriving DecidableEq, Repr

namespace CodedField

/-! ## Writing -/

section

variable {σ : Type} [BitSink σ]

/-- Writes one field. -/
def write : CodedField → σ → Except BitFault σ
  | bits value width => BitSink.writeBits value width
  | wideBits value width => BitSink.writeWideBits value width
  | flag value => BitSink.writeFlag value
  | unsigned value => BitSink.writeUnsigned value
  | signed value => BitSink.writeSigned value
  | alignment => BitSink.stuffZeros
  | trailing => BitSink.writeTrailingBits

/-- Writes one field after another. -/
def writeAll : List CodedField → σ → Except BitFault σ
  | [], sink => .ok sink
  | field :: fields, sink =>
      match field.write sink with
      | .ok rest => writeAll fields rest
      | .error fault => .error fault

end

/-- The escaped unit that holds the given fields. -/
def toUnit (fields : List CodedField) : Except BitFault (List UInt8) :=
  (writeAll fields ({} : EscapedWriter)).map EscapedWriter.finish

/-! ## Composite forms -/

/-- Fields that are there only under a condition. -/
def onlyIf (condition : Bool) (fields : List CodedField) : List CodedField :=
  if condition then fields else []

/-- The fields of a value that may be absent. -/
def present {α : Type} (coding : α → List CodedField) (value : Option α) : List CodedField :=
  (value.map coding).getD []

/-- A flag that says whether a value is there, and behind it the fields of the value. -/
def flagged {α : Type} (coding : α → List CodedField) (value : Option α) : List CodedField :=
  flag value.isSome :: present coding value

end CodedField

end CodedVideo
