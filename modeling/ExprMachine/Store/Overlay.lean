import ExprMachine.Store

/-!
# Overlays

The writes of one evaluation, kept apart from the store that it reads. A key that was written reads
as its last value, and any other key as the store has it for the caller.
-/

namespace ExprMachine

/-- A caller's view of a store under writes not yet committed. -/
structure Overlay where
  base : Store
  caller : Word
  pending : Table Word Word

namespace Overlay

/-- A view without writes. -/
def start (base : Store) (caller : Word) : Overlay := ⟨base, caller, .empty⟩

/-- Reads a key. -/
def get (o : Overlay) (key : Word) : Except StoreFault Word :=
  match o.pending.get? key with
  | some value => .ok value
  | none => o.base.get o.caller key

/-- Writes a key. -/
def set (o : Overlay) (key value : Word) : Overlay :=
  { o with pending := o.pending.insert key value }

/-- The writes in key order, the last one for each key. -/
def writes (o : Overlay) : List (Word × Word) := o.pending.entries

end Overlay

end ExprMachine
