/-!
# Errors

Two layers of failure. A bit reader or writer reports a `BitFault`, which knows nothing of the
structure being decoded. A parser reports an `Error`, which names the syntax structure and, for
data that ends too early, the bit at which it ends. `Error.locate` turns the first into the second.

A parser that stops at a construct it does not decode hands back what it has read so far: that is
an `Interruption`.
-/

namespace CodedVideo

/-! ## Faults of bit readers and writers -/

/-- Why a bit reader or writer refuses an operation. -/
inductive BitFault where
  /-- Fewer bits remain than the read asks for. -/
  | unexpectedEnd
  /-- The operation names a number of bits that no single read or write can move. -/
  | invalidBitCount (count : Nat)
  /-- The value of an Exp-Golomb code does not fit its target. -/
  | codeTooLarge
  /-- The trailing bits are not a one followed by zeros only. -/
  | invalidTrailingBits
deriving DecidableEq, Repr

/-- The text that describes a fault. -/
def BitFault.message : BitFault → String
  | unexpectedEnd => "Unexpected end of bitstream"
  | invalidBitCount count => s!"Invalid bit count: {count}"
  | codeTooLarge => "Exp-Golomb decoding error: value too large"
  | invalidTrailingBits => "Invalid RBSP trailing bits"

/-! ## Errors of parsers -/

/-- Why a syntax structure cannot be decoded. -/
inductive Error where
  /-- A reader fault that is not attributed to a structure yet. -/
  | unlocated (fault : BitFault)
  /-- The data ends inside the structure, at the given bit. -/
  | truncated (structureName : String) (bitOffset : Nat)
  /-- A rule of the structure is broken. -/
  | malformed (structureName description : String)
  /-- The structure refers to a parameter set that is not known. -/
  | missingReference (structureName kind : String) (id : Nat)
  /-- Decoding stops on purpose at a construct that is not supported. -/
  | unsupported (structureName feature : String)
  /-- A configured limit is reached. -/
  | resourceExhausted (description : String)
deriving DecidableEq, Repr

namespace Error

/-- The text that describes an error. -/
def message : Error → String
  | unlocated fault => "Bitstream error: " ++ fault.message
  | truncated structureName bitOffset => s!"{structureName}: truncated at bit {bitOffset}"
  | malformed structureName description => s!"{structureName}: {description}"
  | missingReference structureName kind id => s!"{structureName}: referenced {kind} {id} not found"
  | unsupported structureName feature =>
      s!"{structureName}: cannot parse further, {feature} not supported"
  | resourceExhausted description => "Resource exhausted: " ++ description

/-- A parser was handed a unit of another type. -/
def wrongUnitType (structureName : String) (unitType : Nat) : Error :=
  malformed structureName s!"wrong NAL unit type {unitType}"

/-- Attributes a reader fault to a structure: the end of the data becomes a truncation at
`bitOffset`, every other fault a malformed structure. An error that names a structure already is
kept, so the innermost structure wins. -/
def locate (structureName : String) (bitOffset : Nat) : Error → Error
  | unlocated .unexpectedEnd => truncated structureName bitOffset
  | unlocated fault =>
      let text := fault.message
      malformed structureName s!"{text} at bit {bitOffset}"
  | located => located

/-- The input ended too early. -/
def isTruncation : Error → Bool
  | truncated _ _ => true
  | unlocated .unexpectedEnd => true
  | _ => false

/-- The parser stopped at a construct that is not supported. -/
def isUnsupported : Error → Bool
  | unsupported _ _ => true
  | _ => false

/-- A parameter set that is referred to is absent. -/
def isMissingReference : Error → Bool
  | missingReference _ _ _ => true
  | _ => false

end Error

/-! ## Partial results -/

/-- How a parse that can stop halfway ends without a complete value. -/
inductive Interruption (α : Type) where
  /-- Nothing usable was decoded. -/
  | failed (error : Error)
  /-- The leading fields were decoded; decoding stopped at `error`. -/
  | incomplete (decoded : α) (error : Error)
deriving DecidableEq, Repr

namespace Interruption

variable {α : Type}

/-- Keeps what was decoded only where decoding stopped on purpose. -/
def stopped (decoded : α) (error : Error) : Interruption α :=
  if error.isUnsupported then incomplete decoded error else failed error

/-- The error that ended the parse. -/
def error : Interruption α → Error
  | failed error => error
  | incomplete _ error => error

/-- What was decoded before the parse ended. -/
def decoded? : Interruption α → Option α
  | failed _ => none
  | incomplete decoded _ => some decoded

/-- Takes what was decoded, whether or not the parse came to its end. -/
def keepDecoded : Except (Interruption α) α → Except Error α
  | .ok value => .ok value
  | .error (incomplete decoded _) => .ok decoded
  | .error (failed error) => .error error

/-- The text that describes an interruption. -/
def message : Interruption α → String
  | failed error => error.message
  | incomplete _ error => "incomplete: " ++ error.message

end Interruption

end CodedVideo
