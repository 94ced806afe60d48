import ExprMachine.Trail.Mode
import ExprMachine.Word

/-!
# Trails

What an evaluation leaves behind besides its result: the snapshots of its `debug` ops and, if asked
for, a line for every op that it ran, in the order in which they happened.
-/

namespace ExprMachine

/-- Where an op stands: its source, its place there, and how many frames are open below its own. -/
structure Site where
  source : Nat
  ip : Nat
  depth : Nat
  deriving DecidableEq

/-- A snapshot taken by a `debug` op. -/
structure DebugEvent where
  mode : DebugMode
  site : Site
  words : List Word
  deriving DecidableEq

/-- The words of a state snapshot: source, place, depth and height, then the words of the frame. -/
def packState (site : Site) (words : List Word) : List Word :=
  [BitVec.ofNat 256 site.source, BitVec.ofNat 256 site.ip, BitVec.ofNat 256 site.depth,
    BitVec.ofNat 256 words.length] ++ words

/-- One entry of a trail. -/
inductive TrailEntry where
  /-- An op is about to run. -/
  | exec (site : Site) (opcode : String)
  /-- A `debug` op ran. -/
  | debug (event : DebugEvent)
  deriving DecidableEq

/-- The snapshot of an entry. -/
def TrailEntry.event? : TrailEntry → Option DebugEvent
  | .exec .. => none
  | .debug event => some event

end ExprMachine
