/-!
# Limits

How high a frame's stack may grow and how deep frames may nest. No evaluation nests deeper than
`Limits.depthCap`, whatever it is configured to.
-/

namespace ExprMachine

/-- Bounds on one evaluation. -/
structure Limits where
  /-- Words in one frame. -/
  maxStack : Nat
  /-- Frames nested in the first one. -/
  maxCallDepth : Nat
  deriving DecidableEq

namespace Limits

/-- The depth beyond which no limit goes. -/
def depthCap : Nat := 128

/-- The limits of an evaluation for which none are given. -/
def standard : Limits := ⟨1024, 32⟩

/-- The same limits with a depth of at most `depthCap`. -/
def clamped (l : Limits) : Limits := { l with maxCallDepth := Nat.min l.maxCallDepth depthCap }

end Limits

end ExprMachine
