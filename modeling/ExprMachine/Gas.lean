import ExprMachine.Fault

/-!
# Gas

An evaluation may spend a fixed amount of gas. Each op pays its table cost, and each nested frame
(a call, a round of a loop) pays a base cost and one unit for every word handed to it, so that a
loop over ops without cost still ends. A charge that does not fit spends all that is left.
-/

namespace ExprMachine

namespace Gas

/-- The gas that may be spent and the gas that has been. -/
structure Meter where
  limit : Nat
  used : Nat
  deriving DecidableEq

/-- The greatest 64-bit number, beyond which no cost goes. -/
def costCap : Nat := 0xffffffffffffffff

/-- The cost of a nested frame that is handed `words` words. -/
def frameCost (words : Nat) : Nat := Nat.min (2 + words) costCap

namespace Meter

/-- A meter of which nothing has been used. -/
def fresh (limit : Nat) : Meter := ⟨limit, 0⟩

/-- Spends `cost` if that much is left, and otherwise fails and spends the rest. -/
def charge (m : Meter) (cost : Nat) : Except Fault Unit × Meter :=
  if m.used + cost ≤ m.limit then (.ok (), { m with used := m.used + cost })
  else (.error .outOfGas, { m with used := m.limit })

/-- Spends the cost of a nested frame. -/
def chargeFrame (m : Meter) (words : Nat) : Except Fault Unit × Meter :=
  m.charge (frameCost words)

/-- What is left. -/
def remaining (m : Meter) : Nat := m.limit - m.used

/-- Nothing is left. -/
def isExhausted (m : Meter) : Bool := m.used == m.limit

end Meter

end Gas

end ExprMachine
