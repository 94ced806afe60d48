/-!
# Operands

Every op carries one 16-bit operand, read in one of four ways:

* as a count (`Operand.count`), by the variadic ops;
* as two bytes (`lowByte`, `highByte`): a column and a row of the context;
* as a byte and two 4-bit counts (`lowByte`, `lowCount`, `highCount`): a target source, how many
  words go in, and how many come out or how often it runs;
* as a memory reference (`region`, `index`): the last bit chooses the region, the rest is an index.
-/

namespace ExprMachine

/-- The 16-bit operand of an op. -/
structure Operand where
  raw : UInt16
  deriving DecidableEq

/-- What a memory read looks at. -/
inductive Region where
  | stack
  | constants
  deriving DecidableEq

namespace Operand

/-- The operand as a number. -/
def count (o : Operand) : Nat := o.raw.toNat

/-- Bits 0 to 7. -/
def lowByte (o : Operand) : Nat := o.raw.toNat % 256

/-- Bits 8 to 15. -/
def highByte (o : Operand) : Nat := o.raw.toNat / 256

/-- Bits 8 to 11. -/
def lowCount (o : Operand) : Nat := o.raw.toNat / 256 % 16

/-- Bits 12 to 15. -/
def highCount (o : Operand) : Nat := o.raw.toNat / 4096

/-- A memory reference with last bit 0 reads the stack, with last bit 1 the constants. -/
def region (o : Operand) : Region :=
  if o.raw.toNat % 2 = 0 then .stack else .constants

/-- The index of a memory reference: bits 1 to 15. -/
def index (o : Operand) : Nat := o.raw.toNat / 2

theorem lowByte_lt (o : Operand) : o.lowByte < 256 := Nat.mod_lt _ (by decide)

theorem lowCount_lt (o : Operand) : o.lowCount < 16 := Nat.mod_lt _ (by decide)

theorem highCount_lt (o : Operand) : o.highCount < 16 := by
  have := o.raw.toNat_lt
  unfold highCount
  omega

end Operand

end ExprMachine
