import ExprMachine.Bytecode.Op
import ExprMachine.Trail.Mode

/-!
# Building ops

One function for each shape of operand. A field that does not fit its bits is refused
(`BuildFault`): memory indices have 15 bits, the counts of control flow have 4.
-/

namespace ExprMachine

/-- A field too large for its bits. -/
inductive BuildFault where
  | constantIndex (index : UInt16)
  | stackIndex (index : UInt16)
  | flowCounts (low high : UInt8)
  deriving DecidableEq

/-- The wording of a refused field. -/
def BuildFault.message : BuildFault → String
  | .constantIndex index => s!"constant index {index.toNat} exceeds 32767"
  | .stackIndex index => s!"stack index {index.toNat} exceeds 32767"
  | .flowCounts low high => s!"flow counts {low.toNat}/{high.toNat} exceed 15"

namespace Op

/-- The operand of a control-flow op: two 4-bit counts above a source. -/
def packFlow (source low high : UInt8) : Except BuildFault UInt16 :=
  if low.toNat ≤ 15 ∧ high.toNat ≤ 15 then
    .ok (UInt16.ofNat (high.toNat * 4096 + low.toNat * 256 + source.toNat))
  else .error (.flowCounts low high)

/-- Reads a constant. -/
def constant (index : UInt16) : Except BuildFault Op :=
  if index.toNat ≤ 32767 then .ok (ofRaw 0 (UInt16.ofNat (index.toNat * 2 + 1)))
  else .error (.constantIndex index)

/-- Reads a word of the stack, counted from the bottom. -/
def stack (index : UInt16) : Except BuildFault Op :=
  if index.toNat ≤ 32767 then .ok (ofRaw 0 (UInt16.ofNat (index.toNat * 2)))
  else .error (.stackIndex index)

/-- Reads a cell of the context. -/
def context (row column : UInt8) : Op :=
  ofRaw 1 (UInt16.ofNat (row.toNat * 256 + column.toNat))

/-- Runs a source once. -/
def call (source inputs outputs : UInt8) : Except BuildFault Op :=
  ofRaw 2 <$> packFlow source inputs outputs

/-- Runs a source a fixed number of times. -/
def loopN (iterations source carried : UInt8) : Except BuildFault Op :=
  ofRaw 3 <$> packFlow source carried iterations

/-- Runs a source while its condition is non-zero. -/
def doWhile (source carried : UInt8) : Except BuildFault Op :=
  ofRaw 4 <$> packFlow source carried 0

/-- Records a snapshot. -/
def debug (mode : DebugMode) : Op := ofRaw 5 mode.code

/-- Fails with a code unless its input is non-zero. -/
def ensure (code : UInt16) : Op := ofRaw 6 code

/-- An op whose operand is its number of inputs. -/
def variadic (opcode inputs : UInt16) : Op := ofRaw opcode inputs

/-- An op without an operand. -/
def simple (opcode : UInt16) : Op := ofRaw opcode 0

end Op

end ExprMachine
