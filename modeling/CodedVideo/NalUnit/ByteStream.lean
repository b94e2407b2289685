import CodedVideo.NalUnit.Emulation

/-!
# Byte streams

In a byte stream each NAL unit stands behind a start code: two zero bytes and a byte 1, in front of
which a third zero byte may stand. Zero bytes at the end of a unit do not belong to it.
-/

namespace CodedVideo.ByteStream

/-- Where a start code begins and how many bytes it has, three or four. -/
structure StartCode where
  offset : Nat
  length : Nat
deriving DecidableEq, Repr

/-- The start code that a byte 1 at `offset` ends, where `zeros` zero bytes stand in front of it. -/
def startCodeAt (zeros offset : Nat) : StartCode :=
  if 3 ≤ zeros then { offset := offset - 3, length := 4 } else { offset := offset - 2, length := 3 }

/-- The first start code in the bytes from `offset` on, where `zeros` zero bytes stand in front of
them. -/
def startCodeAfter (zeros offset : Nat) : List UInt8 → Option StartCode
  | [] => none
  | byte :: bytes =>
      if byte = 1 ∧ 2 ≤ zeros then some (startCodeAt zeros offset)
      else startCodeAfter (Emulation.zeroRun zeros byte) (offset + 1) bytes

/-- The first start code that lies in the bytes from `start` on. -/
def findStartCode (bytes : List UInt8) (start : Nat) : Option StartCode :=
  startCodeAfter 0 start (bytes.drop start)

/-- A reversed unit without the zero bytes at its end, the right way round. -/
def trimReversed (unit : List UInt8) : List UInt8 :=
  (unit.dropWhile (· == 0)).reverse

/-- Cuts bytes behind each start code. Given are the reversed bytes since the last cut and the
number of zero bytes at their end; each piece is trimmed of the zero bytes at its end. -/
def piecesAfter (zeros : Nat) (unit : List UInt8) : List UInt8 → List (List UInt8)
  | [] => [trimReversed unit]
  | byte :: bytes =>
      if byte = 1 ∧ 2 ≤ zeros then trimReversed unit :: piecesAfter 0 [] bytes
      else piecesAfter (Emulation.zeroRun zeros byte) (byte :: unit) bytes

/-- The NAL units of a byte stream. The bytes in front of the first start code are no unit, and
empty units are skipped. -/
def split (stream : List UInt8) : List (List UInt8) :=
  (piecesAfter 0 [] stream).tail.filter (!·.isEmpty)

/-- The byte stream of NAL units, each behind a start code of four bytes. -/
def join (units : List (List UInt8)) : List UInt8 :=
  units.flatMap ([0, 0, 0, 1] ++ ·)

end CodedVideo.ByteStream
