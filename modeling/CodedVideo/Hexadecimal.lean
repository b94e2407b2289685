/-!
# Hexadecimal numbers
-/

namespace CodedVideo.Hexadecimal

/-- A number in lower-case hexadecimal digits, without leading zeros. -/
def lower (value : Nat) : String :=
  String.ofList (Nat.toDigits 16 value)

/-- A number in upper-case hexadecimal digits, without leading zeros. -/
def upper (value : Nat) : String :=
  String.ofList ((Nat.toDigits 16 value).map Char.toUpper)

/-- A byte in two lower-case hexadecimal digits. -/
def lowerByte (value : Nat) : String :=
  if value < 16 then "0" ++ lower value else lower value

end CodedVideo.Hexadecimal
