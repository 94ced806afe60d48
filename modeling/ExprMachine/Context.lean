import ExprMachine.Fault

/-!
# Contexts

A read-only grid of words that whoever asks for an evaluation hands to it. Rows may differ in
length.
-/

namespace ExprMachine

/-- A grid of words, row by row. -/
structure Context where
  rows : List (List Word)
  deriving DecidableEq

namespace Context

/-- The grid without rows. -/
def empty : Context := ⟨[]⟩

/-- A grid whose first row holds the caller and the contract. -/
def withBaseRow (caller contract : Word) (rows : List (List Word)) : Context :=
  ⟨[caller, contract] :: rows⟩

/-- The cell at the given place. -/
def get (c : Context) (row column : Nat) : Except Fault Word :=
  match c.rows[row]?.bind (·[column]?) with
  | some w => .ok w
  | none => .error (.contextOutOfBounds row column)

/-- All cells, row by row. -/
def flatten (c : Context) : List Word := c.rows.flatten

end Context

end ExprMachine
