import CodedVideo.Decoder.Basic

/-!
# Windows

A window is the part of a picture that is shown. It is given by the margins around it.
-/

namespace CodedVideo

/-- The margins of a picture that lie outside a window, each counted in a unit of its own. -/
structure Window where
  left : Nat
  right : Nat
  top : Nat
  bottom : Nat
deriving DecidableEq, Repr

open Decoder in
/-- The grammar of a window. -/
def Window.decoder : Decoder Window := do
  let left ← unsigned
  let right ← unsigned
  let top ← unsigned
  let bottom ← unsigned
  return { left, right, top, bottom }

end CodedVideo
