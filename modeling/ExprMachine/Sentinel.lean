import ExprMachine.Word

/-!
# Lists behind sentinels

An expression returns a list by pushing a sentinel word and then tuples of one size. The list is
read off the finished stack: it is all that stands above the sentinel nearest to the top. Reading
takes the sentinel and the list off, so that several lists can be read one after the other.
-/

namespace ExprMachine

namespace Sentinel

/-- Why no list can be read. -/
inductive Fault where
  | missing
  | ragged (length tupleSize : Nat)
  | zeroTupleSize
  deriving DecidableEq

/-- The wording of a fault. -/
def Fault.message : Fault → String
  | .missing => "sentinel not found on stack"
  | .ragged length tupleSize =>
    s!"{length} words after sentinel is not a multiple of tuple size {tupleSize}"
  | .zeroTupleSize => "tuple size must be non-zero"

/-- The words below and above the sentinel nearest to the top. -/
def splitAtLast? (sentinel : Word) : List Word → Option (List Word × List Word)
  | [] => none
  | w :: ws =>
    match splitAtLast? sentinel ws with
    | some (below, above) => some (w :: below, above)
    | none => if w = sentinel then some ([], ws) else none

/-- The first `count` tuples of a list of words. -/
def tuples (size : Nat) : (count : Nat) → List Word → List (List Word)
  | 0, _ => []
  | count + 1, ws => ws.take size :: tuples size count (ws.drop size)

/-- Reads the list on top of a stack, bottom first: its tuples, and the stack below its sentinel. -/
def consume (stack : List Word) (sentinel : Word) (tupleSize : Nat) :
    Except Fault (List (List Word) × List Word) :=
  if tupleSize = 0 then .error .zeroTupleSize
  else match splitAtLast? sentinel stack with
    | none => .error .missing
    | some (below, above) =>
      if above.length % tupleSize ≠ 0 then .error (.ragged above.length tupleSize)
      else .ok (tuples tupleSize (above.length / tupleSize) above, below)

/-- Reads the list on top of a stack off the stack, if there is one to read. -/
def peel (sentinel : Word) (tupleSize : Nat) : EStateM Fault (List Word) (List (List Word)) := do
  match consume (← get) sentinel tupleSize with
  | .ok (tuples, below) => do
    set below
    return tuples
  | .error e => throw e

end Sentinel

end ExprMachine
