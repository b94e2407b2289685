/-!
# Emulation prevention

Inside a NAL unit two zero bytes are never followed by a byte below three, for such a byte could
be taken for a start code. Where the payload has one, the byte 3 is inserted in front of it.
A byte 3 behind two zeros is such an inserted byte; a run of three zeros or more, which only an
ill-formed unit holds, is not followed by one.
-/

namespace CodedVideo.Emulation

/-- The number of zero bytes that arms the rule. -/
def zerosBefore : Nat := 2

/-- The inserted byte. -/
def preventionByte : UInt8 := 3

/-- The length of the zero run that ends in `byte`, given the length of the one in front of it. -/
def zeroRun (zeros : Nat) (byte : UInt8) : Nat :=
  if byte = 0 then zeros + 1 else 0

/-- Drops the inserted bytes of a unit, where `zeros` zero bytes stand in front of it. -/
def removeAfter (zeros : Nat) : List UInt8 → List UInt8
  | [] => []
  | byte :: bytes =>
      if zeros = zerosBefore ∧ byte = preventionByte then removeAfter 0 bytes
      else byte :: removeAfter (zeroRun zeros byte) bytes

/-- The payload of an escaped unit. -/
def remove (unit : List UInt8) : List UInt8 :=
  removeAfter 0 unit

/-- Escapes a payload, where `zeros` zero bytes stand in front of it. -/
def insertAfter (zeros : Nat) : List UInt8 → List UInt8
  | [] => []
  | byte :: bytes =>
      if zeros = zerosBefore ∧ byte ≤ preventionByte then
        preventionByte :: byte :: insertAfter (zeroRun 0 byte) bytes
      else byte :: insertAfter (zeroRun zeros byte) bytes

/-- The escaped unit of a payload. -/
def insert (payload : List UInt8) : List UInt8 :=
  insertAfter 0 payload

/-- The number of inserted bytes in an escaped unit. -/
def count (unit : List UInt8) : Nat :=
  unit.length - (remove unit).length

end CodedVideo.Emulation
