import CodedVideo.Decoder.Basic

/-!
# HEVC extension flags

Sequence and picture parameter sets say at their end which extensions follow.
-/

namespace CodedVideo.Hevc

/-- Which extensions of a parameter set follow. -/
structure ExtensionFlags where
  range : Bool := false
  multilayer : Bool := false
  threeD : Bool := false
  screenContent : Bool := false
  /-- Four flags of extensions that are not specified. -/
  others : Nat := 0
deriving DecidableEq, Repr

namespace ExtensionFlags

open Decoder

/-- The flags behind the one that says that there are any. -/
def fields : Decoder ExtensionFlags := do
  let range ← flag
  let multilayer ← flag
  let threeD ← flag
  let screenContent ← flag
  let others ← bits 4
  return { range, multilayer, threeD, screenContent, others }

/-- The grammar of the flags. -/
def decoder : Decoder ExtensionFlags := do
  whenElse (← flag) {} fields

/-- An extension other than the range extension follows. -/
def beyondRange (flags : ExtensionFlags) : Bool :=
  flags.multilayer || flags.threeD || flags.screenContent || flags.others != 0

/-- An extension follows. -/
def any (flags : ExtensionFlags) : Bool :=
  flags.range || flags.beyondRange

end ExtensionFlags

end CodedVideo.Hevc
