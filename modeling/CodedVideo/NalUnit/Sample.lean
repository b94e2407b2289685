import CodedVideo.Error
import CodedVideo.NalUnit.ByteStream

/-!
# Samples

In a sample each NAL unit stands behind its length, a number of one, two or four bytes with the
most significant byte first.
-/

namespace CodedVideo.Sample

/-- The name under which errors report a sample. -/
def structureName : String := "NAL sample"

/-- The number of bytes in a length field. -/
inductive LengthSize where
  | one
  | two
  | four
deriving DecidableEq, Repr

namespace LengthSize

/-- The size as a number. -/
def bytes : LengthSize → Nat
  | one => 1
  | two => 2
  | four => 4

theorem bytes_pos (size : LengthSize) : 0 < size.bytes := by
  cases size <;> decide

/-- The length size of `count` bytes, if there is one. -/
def ofNat? : Nat → Except Error LengthSize
  | 1 => .ok one
  | 2 => .ok two
  | 4 => .ok four
  | count => .error (.malformed structureName s!"invalid NAL length size {count}")

end LengthSize

/-! ## Length fields -/

/-- The number that bytes write, most significant first. -/
def lengthOf (field : List UInt8) : Nat :=
  field.foldl (fun value byte => value * 256 + byte.toNat) 0

/-- A number in `count` bytes, most significant first. -/
def lengthField : Nat → Nat → List UInt8
  | 0, _ => []
  | count + 1, value => UInt8.ofNat (value >>> (8 * count)) :: lengthField count value

/-! ## Splitting and joining -/

/-- The NAL units of a sample. -/
def splitUnits (size : LengthSize) (sample : List UInt8) : Except Error (List (List UInt8)) :=
  if sample.isEmpty then .ok []
  else if _tooShort : sample.length < size.bytes then
    .error (.malformed structureName "truncated NAL length field")
  else
    let length := lengthOf (sample.take size.bytes)
    let body := sample.drop size.bytes
    let remaining := body.length
    if remaining < length then
      .error (.malformed structureName s!"NAL length {length} exceeds remaining {remaining} bytes")
    else
      match splitUnits size (body.drop length) with
      | .ok units => .ok (body.take length :: units)
      | .error error => .error error
termination_by sample.length
decreasing_by
  have size_pos := size.bytes_pos
  simp only [List.length_drop]
  omega

/-- The sample of NAL units. -/
def joinUnits (size : LengthSize) : List (List UInt8) → Except Error (List UInt8)
  | [] => .ok []
  | unit :: units =>
      let length := unit.length
      let bytes := size.bytes
      if 1 <<< (8 * bytes) ≤ length then
        .error (.malformed structureName
          s!"NAL unit of {length} bytes does not fit a {bytes}-byte length")
      else
        match joinUnits size units with
        | .ok sample => .ok (lengthField bytes length ++ unit ++ sample)
        | .error error => .error error

/-- The NAL units of a sample with length fields of `lengthSize` bytes. -/
def split (sample : List UInt8) (lengthSize : Nat) : Except Error (List (List UInt8)) := do
  splitUnits (← LengthSize.ofNat? lengthSize) sample

/-- A byte stream as a sample with length fields of `lengthSize` bytes. -/
def ofByteStream (stream : List UInt8) (lengthSize : Nat) : Except Error (List UInt8) := do
  joinUnits (← LengthSize.ofNat? lengthSize) (ByteStream.split stream)

/-- A sample as a byte stream with start codes of four bytes. -/
def toByteStream (sample : List UInt8) (lengthSize : Nat) : Except Error (List UInt8) :=
  (split sample lengthSize).map ByteStream.join

end CodedVideo.Sample
